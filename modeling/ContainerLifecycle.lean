import ContainerLifecycle.FilePath
import ContainerLifecycle.Client
import ContainerLifecycle.HandleEvent
import ContainerLifecycle.Create
import ContainerLifecycle.System
import ContainerLifecycle.StdinClose
import ContainerLifecycle.Supervisor
import ContainerLifecycle.ClientStream
import ContainerLifecycle.StreamSetup
import ContainerLifecycle.BundleDir
import ContainerLifecycle.SecurityOpt
import ContainerLifecycle.CommandFind
import ContainerLifecycle.CommandTraverse
import ContainerLifecycle.CommandTree
import ContainerLifecycle.TaskPrint
import ContainerLifecycle.CommandExecute
import ContainerLifecycle.DaemonCreate
import ContainerLifecycle.CommandExecuteC
