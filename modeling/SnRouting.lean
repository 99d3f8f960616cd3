import SnRouting.XorName
import SnRouting.Section
import SnRouting.DeliveryGroup.Basic
import SnRouting.DeliveryGroup.Candidates
import SnRouting.DeliveryGroup.Targets
import SnRouting.DeliveryGroup.SignatureTargets
import SnRouting.Messages.GetGroupKeyResponse
import SnRouting.Node.Stage
import SnRouting.Node.FirstNode
import SnRouting.States.Adult.Basic
import SnRouting.States.Adult.Handlers
import SnRouting.States.Adult.Genesis
import SnRouting.States.Adult.Replay
import SnRouting.States.Adult.Backlog
import SnRouting.States.Adult.Pause
import SnRouting.States.Adult.Handover
import SnRouting.States.Adult.Relay
import SnRouting.Vote
import SnRouting.Node.FirstNode
import SnRouting.States.Adult.Handover
import SnRouting.States.Adult.Relay
