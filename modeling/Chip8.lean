import Chip8.Main
import Chip8.Machine.Statistics
import Chip8.Machine.Watchers
import Chip8.Proofs.Effect
import Chip8.Proofs.Step
import Chip8.Proofs.Halting
import Chip8.Proofs.CallStack
import Chip8.Proofs.Pattern
import Chip8.Proofs.Sound
import Chip8.Proofs.FaultCondition
import Chip8.Proofs.Independence
import Chip8.Proofs.Run
import Chip8.Proofs.OpenCalls
import Chip8.Proofs.KeyWait
import Chip8.Proofs.Timers
import Chip8.Proofs.Tones
import Chip8.Proofs.DisplayReads
import Chip8.Proofs.Events
import Chip8.Proofs.TwoRuns
import Chip8.Proofs.Picture
import Chip8.Proofs.Phases
import Chip8.Proofs.Frames
import Chip8.Proofs.ShownDisplay
import Chip8.Proofs.Recovery
import Chip8.Proofs.RandomStream
import Chip8.Proofs.Reset
import Chip8.Proofs.Pause
import Chip8.Proofs.Alignment
import Chip8.Proofs.Drawing
import Chip8.Proofs.Writes
import Chip8.Proofs.ReadFootprint
import Chip8.Proofs.WriteFrame
import Chip8.Proofs.NextAddress
import Chip8.Proofs.Transfer
import Chip8.Proofs.Arithmetic
import Chip8.Proofs.Decoding
import Chip8.Proofs.Strokes
import Chip8.Proofs.Loading
import Chip8.Proofs.Rendering
import Chip8.Proofs.Statistics
import Chip8.Proofs.MemoryChecks
import Chip8.Proofs.FirstFault
