import FlexRic.Ric.Isolation
import FlexRic.Ric.RequestIds
import FlexRic.Ric.PendingTimers
import FlexRic.Ric.Departure
import FlexRic.Ric.InHand
import FlexRic.Ric.Handshake
import FlexRic.Ric.PubSub
import FlexRic.Ric.XappIdentity
import FlexRic.Agent.Indications
import FlexRic.Agent.Aperiodic
import FlexRic.Agent.SetupRetry
import FlexRic.XApp.PendingRequests
import FlexRic.XApp.WakeUps
import FlexRic.XApp.ActiveProcedures
import FlexRic.Util.BiMapRuns
import FlexRic.Util.AssocRbRuns
import FlexRic.Util.AssocRegRuns
import FlexRic.Util.AssocHtOpenRuns
import FlexRic.Util.SeqArrRuns
import FlexRic.Keys.RoutingKeys
import FlexRic.Keys.GlobalE2NodeIds
import FlexRic.Util.SeqRingRuns
import FlexRic.Util.TaskManagerRuns
import FlexRic.Tc.IndicationCodec
import FlexRic.Tc.ControlCodec
import FlexRic.Tc.Acceptance
import FlexRic.Asn.SubscriptionRoundTrip
import FlexRic.Asn.ControlRoundTrip
import FlexRic.Asn.SetupRoundTrip
import FlexRic.Asn.NodeAddressing
import FlexRic.Asn.Conversions
import FlexRic.E2sm.PlainDecoders
import FlexRic.E2sm.UeIdSameness
import FlexRic.Slice.Acceptance
import FlexRic.Slice.Sameness
import FlexRic.Stats.Acceptance
import FlexRic.Util.BooyerMooreRuns
import FlexRic.XApp.PendingSearch
import FlexRic.Kpm.RoundTrip
import FlexRic.Kpm.FunctionDefRoundTrip
import FlexRic.Rc.Definitions
import FlexRic.Rc.EventTriggerRoundTrip
import FlexRic.Rc.ActionDefRoundTrip
import FlexRic.Rc.ControlRoundTrip
import FlexRic.Rc.FuncDefRoundTrip
import FlexRic.Tc.Sameness
import FlexRic.XApp.DbRuns
import FlexRic.Kpm.Sameness
import FlexRic.Kpm.Copyable
import FlexRic.Rc.Sameness
import FlexRic.Rc.ValueCopied
import FlexRic.System.EndToEnd
import FlexRic.Asn.Relay
import FlexRic.Rc.Service
import FlexRic.Kpm.Service
import FlexRic.Stats.Service
