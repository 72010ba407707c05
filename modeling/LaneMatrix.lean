import LaneMatrix.Batch.Schedule
import LaneMatrix.Main
import LaneMatrix.Proofs.Batch.Schedule
import LaneMatrix.Proofs.Mat4.Determinant
import LaneMatrix.Proofs.Program.Session
import LaneMatrix.Proofs.Batch.Outcome
import LaneMatrix.Proofs.Batch.Records
import LaneMatrix.Proofs.Interleaved.RoundTrip
import LaneMatrix.Proofs.Runner.Row
import LaneMatrix.Proofs.Runner.Transcript
import LaneMatrix.Proofs.Interleaved.Stream
import LaneMatrix.Proofs.Mat4.Singular
import LaneMatrix.Proofs.Mat4.Identity
import LaneMatrix.Proofs.Mat4.Transpose
import LaneMatrix.Proofs.Mat4.Inversion
import LaneMatrix.Proofs.Mat4.Bracketing
import LaneMatrix.Proofs.Batch.Plan
import LaneMatrix.Proofs.Batch.Words
import LaneMatrix.Proofs.Batch.Threads
import LaneMatrix.Proofs.Mat4.Writes
import LaneMatrix.Proofs.Runner.Count
import LaneMatrix.Proofs.Text.Quoted
import LaneMatrix.Proofs.Text.Messages
import LaneMatrix.Proofs.Batch.Crew
import LaneMatrix.Proofs.Batch.Joining
import LaneMatrix.Proofs.Batch.Padding
import LaneMatrix.Proofs.Lanes.Access
import LaneMatrix.Proofs.Lanes.Stores
