import NodeDeploy.Cluster.Script
import NodeDeploy.Device.Shell
import NodeDeploy.Dispatch.Run
import NodeDeploy.Main
import NodeDeploy.Proofs.Drift
import NodeDeploy.Proofs.Faults
import NodeDeploy.Proofs.Frames
import NodeDeploy.Proofs.Idempotence
import NodeDeploy.Proofs.Isolation
import NodeDeploy.Proofs.JsonText
import NodeDeploy.Proofs.Mounts
import NodeDeploy.Proofs.Ownership
import NodeDeploy.Proofs.References
import NodeDeploy.Proofs.Release
import NodeDeploy.Proofs.Retries
import NodeDeploy.Proofs.Secrecy
import NodeDeploy.Proofs.Sessions
import NodeDeploy.Proofs.StandIn
import NodeDeploy.Proofs.Storage
import NodeDeploy.Scene.Step
import NodeDeploy.Store.Cluster
import NodeDeploy.Proofs.Finalizers
import NodeDeploy.Proofs.Interleavings
import NodeDeploy.Proofs.Conversations
import NodeDeploy.Proofs.Revisions
import NodeDeploy.Proofs.Offsets
import NodeDeploy.Proofs.Lossless
import NodeDeploy.Proofs.Converging
import NodeDeploy.Proofs.Choosing
import NodeDeploy.Proofs.Transcripts
import NodeDeploy.Proofs.Transitions
import NodeDeploy.Proofs.Trackers
import NodeDeploy.Proofs.Extraction
import NodeDeploy.Proofs.VolumeNames
import NodeDeploy.Proofs.Quantities
import NodeDeploy.Proofs.WiringTexts
import NodeDeploy.Proofs.Silences
import NodeDeploy.Proofs.Splitting
import NodeDeploy.Proofs.Spacing
import NodeDeploy.Proofs.Stamping
