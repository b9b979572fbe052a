import Wardoff.Autostart.Proof.Trust
import Wardoff.Blocker.Proof.Coordinator
import Wardoff.Blocker.Proof.Detection
import Wardoff.Blocker.Proof.Sleep
import Wardoff.Blocker.Proof.Trace
import Wardoff.Blocker.Proof.Update
import Wardoff.Instance.Proof.Claim
import Wardoff.Ipc.Proof.Bytes
import Wardoff.Ipc.Proof.Client
import Wardoff.Ipc.Proof.Connect
import Wardoff.Ipc.Proof.Delivery
import Wardoff.Ipc.Proof.Forward
import Wardoff.Ipc.Proof.Moments
import Wardoff.Ipc.Proof.Return
import Wardoff.Ipc.Proof.Server
import Wardoff.Ipc.Proof.Shutdown
import Wardoff.Ipc.Proof.Startup
import Wardoff.Ipc.Proof.Wakeup
import Wardoff.Launch.Proof.Session
import Wardoff.Logger.Proof.Queue
import Wardoff.Logger.Proof.TailSteps
import Wardoff.Runtime.Proof.Autostart
import Wardoff.Runtime.Proof.Lifecycle
import Wardoff.Runtime.Proof.TrayActions
import Wardoff.Runtime.Proof.Veto
import Wardoff.Runtime.Proof.Wake
import Wardoff.Tray.Proof.Convergence
import Wardoff.Tray.Proof.Retry
