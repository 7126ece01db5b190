import EdgeReveal.Main
import EdgeReveal.Proofs.CommandLine.Printing
import EdgeReveal.Proofs.Compositor.EventLine
import EdgeReveal.Proofs.Compositor.Lines
import EdgeReveal.Proofs.Compositor.PointerReply
import EdgeReveal.Proofs.Config.Parsing
import EdgeReveal.Proofs.Controller.Lifecycle
import EdgeReveal.Proofs.Controller.Tuning
import EdgeReveal.Proofs.Dispatch.Following
import EdgeReveal.Proofs.Dispatch.Mode
import EdgeReveal.Proofs.Dispatch.Quiescence
import EdgeReveal.Proofs.Dispatch.Serving
import EdgeReveal.Proofs.Machine.Convergence
import EdgeReveal.Proofs.Machine.Counting
import EdgeReveal.Proofs.Machine.Deadline
import EdgeReveal.Proofs.Monitor.Replies
import EdgeReveal.Proofs.Sampling.Displacement
import EdgeReveal.Proofs.Sampling.Staleness
import EdgeReveal.Proofs.Sampling.Stutter
import EdgeReveal.Proofs.Sink.Commands
import EdgeReveal.Proofs.Sink.Lines
import EdgeReveal.Proofs.Subscriptions.Reactions
import EdgeReveal.Session
import EdgeReveal.Shell.Jobs
import EdgeReveal.Shutdown
import EdgeReveal.Subscriptions.Reactive
