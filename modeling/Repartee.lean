import Repartee.Report
import Repartee.RuleFile
import Repartee.Json.Writer
import Repartee.Proofs.OneShot
import Repartee.Proofs.AuthoringOrder
import Repartee.Proofs.Cooldown
import Repartee.Proofs.Acceptance
import Repartee.Proofs.Custody
import Repartee.Proofs.Footprint
import Repartee.Proofs.Spelling
import Repartee.Proofs.CriterionLines
import Repartee.Proofs.EffectLines
import Repartee.Proofs.Numerals
import Repartee.Proofs.Recall
import Repartee.Proofs.Refusal
import Repartee.Proofs.Remarks
import Repartee.Proofs.Rationing
import Repartee.Proofs.Idling
import Repartee.Proofs.Aliasing
import Repartee.Proofs.Disturbance
import Repartee.Proofs.Insertion
import Repartee.Proofs.CellLines
import Repartee.Proofs.RowVerdicts
import Repartee.Proofs.Rejoining
import Repartee.Proofs.Intervals
import Repartee.Proofs.Ties
