import InterlockLadder.Main
import InterlockLadder.Proofs.CoilCount
import InterlockLadder.Proofs.CommandOutcomes
import InterlockLadder.Proofs.Gating
import InterlockLadder.Proofs.LiteralMarks
import InterlockLadder.Proofs.NormalizedRows
import InterlockLadder.Proofs.Numbering
import InterlockLadder.Proofs.OpenRung
import InterlockLadder.Proofs.Respelling
import InterlockLadder.Proofs.SensorLookup
import InterlockLadder.Proofs.Sessions
import InterlockLadder.Proofs.UnreadFields
