import DrinkMixer.Bench.Console
import DrinkMixer.Bench.Servo
import DrinkMixer.Bench.Tag
import DrinkMixer.CommandLine
import DrinkMixer.Main
import DrinkMixer.Proofs.Program.Path
import DrinkMixer.Proofs.Tag.Round
import DrinkMixer.Proofs.Tag.Run
import DrinkMixer.Proofs.Tag.CardCalls
import DrinkMixer.Proofs.Tag.ChipRounds
import DrinkMixer.Proofs.Tag.Encryption
import DrinkMixer.Proofs.Program.Runs
import DrinkMixer.Proofs.Pwm.ChipSteps
import DrinkMixer.Proofs.Pwm.Frequency
import DrinkMixer.Proofs.Pwm.Pulse
import DrinkMixer.Proofs.Pwm.Servos
import DrinkMixer.Proofs.Order.Extremes
import DrinkMixer.Proofs.Cycle.Plan
import DrinkMixer.Proofs.Order.Plan
import DrinkMixer.Proofs.Program.Moments
import DrinkMixer.Proofs.Pwm.Unfailing
import DrinkMixer.Proofs.Order.Registers
import DrinkMixer.Proofs.Tag.ChipProtocol
import DrinkMixer.Proofs.Tag.FrameRound
import DrinkMixer.Proofs.Tag.WindingUp
import DrinkMixer.Proofs.Tag.Stopping
import DrinkMixer.Proofs.Pwm.FailStop
import DrinkMixer.Proofs.Cycle.Serving
import DrinkMixer.Proofs.Order.FailStop
import DrinkMixer.Proofs.Payment.Station
import DrinkMixer.Proofs.Settings.InRange
import DrinkMixer.Proofs.Tag.Selection
import DrinkMixer.Proofs.Program.Alike
import DrinkMixer.Proofs.Tag.Independence
import DrinkMixer.Proofs.Cycle.Arguments
import DrinkMixer.Proofs.Cycle.Count
import DrinkMixer.Proofs.Cycle.Pursuit
import DrinkMixer.Proofs.Order.OneActuator
import DrinkMixer.Proofs.Tag.Phases
import DrinkMixer.Proofs.Json.Records
import DrinkMixer.Proofs.Json.Documents
import DrinkMixer.Proofs.Tag.Tally
import DrinkMixer.Proofs.Payment.FirstReady
import DrinkMixer.Proofs.Order.Pulses
import DrinkMixer.Proofs.CommandLine.Accepted
import DrinkMixer.Proofs.CommandLine.Launch
import DrinkMixer.Proofs.Json.Overrides
import DrinkMixer.Proofs.Cycle.Completions
import DrinkMixer.Proofs.Program.Throughout
import DrinkMixer.Proofs.Pwm.Stores
import DrinkMixer.Proofs.Pwm.Episodes
import DrinkMixer.Proofs.Pwm.LastWrite
import DrinkMixer.Proofs.Json.Taken
import DrinkMixer.Proofs.Json.Spelled
import DrinkMixer.Proofs.Json.Skipped
import DrinkMixer.Proofs.Json.Accepted
import DrinkMixer.Proofs.Order.Accepted
import DrinkMixer.Proofs.Settings.Frequencies
import DrinkMixer.Proofs.Order.Reported
import DrinkMixer.Proofs.Cycle.CountTexts
import DrinkMixer.Proofs.Console.Lines
import DrinkMixer.Proofs.Order.History
import DrinkMixer.Proofs.Console.Undisturbed
import DrinkMixer.Proofs.Stop.Roots
import DrinkMixer.Proofs.Tag.UidTexts
