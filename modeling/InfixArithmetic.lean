import InfixArithmetic.Journal
import InfixArithmetic.Main
import InfixArithmetic.Proofs.Calculation
import InfixArithmetic.Proofs.Slices
import InfixArithmetic.Proofs.Strays
import InfixArithmetic.Proofs.Turns
import InfixArithmetic.Proofs.Writing
import InfixArithmetic.Proofs.Tiling
import InfixArithmetic.Proofs.Rendering
import InfixArithmetic.Proofs.FaultPlaces
import InfixArithmetic.Proofs.CommandLines
import InfixArithmetic.Proofs.Printing
import InfixArithmetic.Proofs.Reprinting
import InfixArithmetic.Proofs.UniqueReading
import InfixArithmetic.Proofs.OperatorPlaces
import InfixArithmetic.Proofs.CaretLines
import InfixArithmetic.Proofs.Stacks
import InfixArithmetic.Proofs.PendingWords
import InfixArithmetic.Proofs.LineTiling
import InfixArithmetic.Proofs.CaretGroups
