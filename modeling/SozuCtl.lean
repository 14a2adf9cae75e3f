import SozuCtl.Text
import SozuCtl.Utf8
import SozuCtl.Net.Addr
import SozuCtl.Net.Parser
import SozuCtl.Net.RoundTrip
import SozuCtl.Hex
import SozuCtl.Request
import SozuCtl.Config
import SozuCtl.Certificate
import SozuCtl.CommandManager
import SozuCtl.Calls
import SozuCtl.Identity
import SozuCtl.Routing
import SozuCtl.Listeners
