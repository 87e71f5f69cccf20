import Wiredb.Types.Any
import Wiredb.Types.Collection
import Wiredb.Types.Table
import Wiredb.Types.ZSet
import Wiredb.Types.Values
import Wiredb.Types.Pool
import Wiredb.Vfs.Segment
import Wiredb.Vfs.Convert
import Wiredb.Conf.Options
import Wiredb.Server.Http
