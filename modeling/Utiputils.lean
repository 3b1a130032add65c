import Utiputils.Lib.RunningMinimum
import Utiputils.Lib.OnesComplement
import Utiputils.Lib.Proc
import Utiputils.Lib.Interleaving
import Utiputils.Lib.Ledger
import Utiputils.Pnet
import Utiputils.Arping.Broadcasts
import Utiputils.Arping.Interfaces
import Utiputils.Arping.Command
import Utiputils.Clockdiff.Offset
import Utiputils.Clockdiff.Run
import Utiputils.Clockdiff.Packets
import Utiputils.Clockdiff.OptionErrors
import Utiputils.Ifenslave.Batch
import Utiputils.Ifenslave.Addresses
import Utiputils.Ping.Accounting
import Utiputils.Ping.Exchange
import Utiputils.Ping.HexPattern
import Utiputils.Ping.Payload
import Utiputils.Ping.Options
import Utiputils.Ping.Timestamps
import Utiputils.Ping.Walkers
import Utiputils.Ping.NodeInfoReply
import Utiputils.Ping.ReplyRoute
import Utiputils.Ping.SameRoute
import Utiputils.Ping.Foreign
import Utiputils.Ping.QueryBound
import Utiputils.Ping.Printing
import Utiputils.Tracepath.Credits
import Utiputils.Tracepath.Accounting
import Utiputils.Tracepath.Ports
import Utiputils.Tracepath.Attribution
import Utiputils.Tracepath.Resolve
import Utiputils.Tracepath.IcmpPath
import Utiputils.Tracepath.Transcript
import Utiputils.Clockdiff.Exchange
import Utiputils.Clockdiff.Machine
import Utiputils.Ifenslave.Readiness
import Utiputils.Ifenslave.Completion
