import Daphne.Codec.Decoder
import Daphne.Codec.Int
import Daphne.Codec.Items
import Daphne.Messages.Hpke
import Daphne.Messages.Report
import Daphne.Messages.Aggregate
import Daphne.Messages.Collect
import Daphne.Messages.Laws
import Daphne.Messages.ConstantTime
import Daphne.Taskprov.Version
import Daphne.Taskprov.Vdaf
import Daphne.Taskprov.Query
import Daphne.Taskprov.Task
import Daphne.Taskprov.Laws
import Daphne.Server.Kv
import Daphne.Server.AddTask
import Daphne.Server.AddTaskRequests
import Daphne.Server.AddHpkeConfig
import Daphne.Server.GenerateTask
import Daphne.Server.Footprint
import Daphne.Server.TaskOwner
import Daphne.Server.Routes
