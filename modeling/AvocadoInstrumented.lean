import AvocadoInstrumented.Python
import AvocadoInstrumented.Messages
import AvocadoInstrumented.Worker
import AvocadoInstrumented.WorkerOutput
import AvocadoInstrumented.Run
import AvocadoInstrumented.RunInvariants
import AvocadoInstrumented.Delivery
import AvocadoInstrumented.Timing
import AvocadoInstrumented.Heartbeat
import AvocadoInstrumented.EndToEnd
import AvocadoInstrumented.Check
import AvocadoInstrumented.JobApiTest
