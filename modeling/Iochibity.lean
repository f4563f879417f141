import Iochibity.Coap.CodecRoundTrip
import Iochibity.Coap.Ping
import Iochibity.Coap.RoundTrip
import Iochibity.Coap.TransferIsolation
import Iochibity.Comm.Retransmission
import Iochibity.Comm.TcpStream
import Iochibity.Ocf.AnsweredOnce
import Iochibity.Ocf.ArrayExact
import Iochibity.Ocf.Attributes
import Iochibity.Ocf.Discovery
import Iochibity.Ocf.DiscoveryGrouping
import Iochibity.Ocf.GroupSchedule
import Iochibity.Ocf.HeaderOptions
import Iochibity.Ocf.KeepAliveRuns
import Iochibity.Ocf.ObserverIsolation
import Iochibity.Ocf.RepMap
import Iochibity.Ocf.RequestStore
import Iochibity.Ocf.ResourceTreeRuns
import Iochibity.Ocf.ZoneId
import Iochibity.Prov.PdmRuns
import Iochibity.Prov.TransferRuns
import Iochibity.Sec.AclAtomicity
import Iochibity.Sec.AmaclResource
import Iochibity.Sec.CalendarRule
import Iochibity.Sec.CertificateRoles
import Iochibity.Sec.CredPostUndo
import Iochibity.Sec.CrlResource
import Iochibity.Sec.DoxmPost
import Iochibity.Sec.IdentityHistory
import Iochibity.Sec.PinStrength
import Iochibity.Sec.PskCredentials
import Iochibity.Sec.RoleStore
import Iochibity.Sec.RolesDecoding
import Iochibity.Sec.SelectiveDelete
import Iochibity.Sec.SpResource
import Iochibity.Sec.SslRefusal
import Iochibity.Util.RandomRange
