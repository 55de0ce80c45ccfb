import Metering.Errors
import Metering.Connect
import Metering.Hive.Query
import Metering.Hive.Callers
import Metering.Hive.Shared
import Metering.Queue
import Metering.Informers
import Metering.Run
