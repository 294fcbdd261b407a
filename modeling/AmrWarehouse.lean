import AmrWarehouse.Fleet.Atomicity
import AmrWarehouse.Fleet.Agreement
import AmrWarehouse.Fleet.Isolation
import AmrWarehouse.Fleet.Pickup
import AmrWarehouse.Fleet.Uniqueness
import AmrWarehouse.Fleet.Recovery
import AmrWarehouse.Fleet.Lifecycle
import AmrWarehouse.Fleet.Telemetry
import AmrWarehouse.Fleet.Sweep
import AmrWarehouse.Fleet.Fifo
import AmrWarehouse.Fleet.LockOrder
import AmrWarehouse.Inspection.Truthful
import AmrWarehouse.Inspection.History
import AmrWarehouse.Wms.QueueDrain
import AmrWarehouse.Wms.HttpAgreement
import AmrWarehouse.Wms.Dispatch
import AmrWarehouse.Wms.Cancellation
import AmrWarehouse.Route.Accounting
import AmrWarehouse.Fleet.ResourceSlots
import AmrWarehouse.Fleet.EventLog
import AmrWarehouse.Fleet.AssignTask
import AmrWarehouse.Fleet.DispatchTasks
import AmrWarehouse.Fleet.WorkConserving
import AmrWarehouse.Fleet.Withdrawal
import AmrWarehouse.Fleet.Reassign
import AmrWarehouse.Wms.LeftRunning
import AmrWarehouse.Wms.StoredTasks
import AmrWarehouse.Inspection.EndToEnd
import AmrWarehouse.Route.Crash
import AmrWarehouse.Library.PosixPath
import AmrWarehouse.Library.FileSystem
import AmrWarehouse.Inspection.WriteOnce
import AmrWarehouse.Route.Decoding
import AmrWarehouse.Route.PngRoundTrip
import AmrWarehouse.Fleet.AllOrNothing
import AmrWarehouse.Fleet.LockTimeouts
import AmrWarehouse.Fleet.SweepAgain
import AmrWarehouse.Fleet.HaulHistory
import AmrWarehouse.Route.RouteImages
import AmrWarehouse.Fleet.BoundedWait
import AmrWarehouse.Wms.Nav2Queue
import AmrWarehouse.Wms.ServiceOrder
import AmrWarehouse.Wms.TaskPointsFile
import AmrWarehouse.Inspection.NavMain
