import DragonSched.Basic
import DragonSched.Process.Records
import DragonSched.Sched.RBTree
import DragonSched.Sched.CFSQueue
import DragonSched.Kernel
import DragonSched.Sched.Cfs
import DragonSched.Process.Manager
import DragonSched.Process.Create
import DragonSched.Process.TaskGroup
import DragonSched.System.Step
import DragonSched.System.RunQueue
import DragonSched.System.Exclusive
import DragonSched.System.Lifecycle
import DragonSched.System.QueueKeys
import DragonSched.System.Preempt
import DragonSched.System.Budget
import DragonSched.System.WakeupRace
import DragonSched.System.Creation
import DragonSched.System.Selection
import DragonSched.System.Registry
import DragonSched.System.Fairness
import DragonSched.System.Stranded
import DragonSched.System.GroupInit
import DragonSched.System.Boot
import DragonSched.System.Tables
import DragonSched.System.Groups
import DragonSched.System.Switch
import DragonSched.System.Reschedule
