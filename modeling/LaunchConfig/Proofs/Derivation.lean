import LaunchConfig.Derivation
import LaunchConfig.Proofs.Numeral
import LaunchConfig.Proofs.Steps

/-!
Derived values over given inputs. The number of instances is exact, so it exists as long as it is
below the largest integer; the path of the key file always exists.
-/
namespace LaunchConfig.Derivation

theorem sum?_of_nonneg {left right : Int64} (first : 0 ≤ left.toInt) (second : 0 ≤ right.toInt) :
    sum? left right = if left.toInt + right.toInt < 2 ^ 63
      then some (Int64.ofInt (left.toInt + right.toInt)) else none := by
  have above : -(Numeral.maxSigned + 1 : Int) ≤ left.toInt + right.toInt := by omega
  simp only [sum?, above, true_and, Numeral.cast_le_maxSigned_iff]

variable {entries : String → Option Value}

theorem input_of_found {α : Type} {reader : Reader α} {key : String} {value : Value} {held : α}
    (found : entries key = some value) (read : reader.convert value = .ok held) :
    input reader entries key = .ok held := by
  simp only [input, found]
  exact mapError_eq_ok_iff.mpr read

theorem compute_instanceNum {controllers workers : Int64}
    (first : entries "CONTROLLER_NUM" = some (.integer controllers))
    (second : entries "WORKER_NUM" = some (.integer workers))
    (nonnegative : 0 ≤ controllers.toInt ∧ 0 ≤ workers.toInt) :
    instanceNum.compute entries = if controllers.toInt + workers.toInt < 2 ^ 63
      then .ok (.integer (Int64.ofInt (controllers.toInt + workers.toInt)))
      else .error (.invalidValue "INSTANCE_NUM" .countOverflow) := by
  have left : input .integer entries "CONTROLLER_NUM" = .ok controllers := input_of_found first rfl
  have right : input .integer entries "WORKER_NUM" = .ok workers := input_of_found second rfl
  simp only [compute, left, right, ok_bind, sum?_of_nonneg nonnegative.1 nonnegative.2]
  by_cases small : controllers.toInt + workers.toInt < 2 ^ 63
  · simp only [small, if_true]
    rfl
  · simp only [small, if_false]
    rfl

theorem compute_privateKey {directory name : String}
    (first : entries "PRIVATE_KEY_DIR" = some (.text directory))
    (second : entries "KEY_NAME" = some (.text name)) :
    privateKey.compute entries = .ok (.text (directory ++ name ++ ".pem")) := by
  have left : input .text entries "PRIVATE_KEY_DIR" = .ok directory := input_of_found first rfl
  have right : input .text entries "KEY_NAME" = .ok name := input_of_found second rfl
  simp only [compute, left, right, ok_bind]
  rfl

/-- A derived value depends on nothing but its inputs. -/
theorem compute_congr {derivation : Derivation} {other : String → Option Value}
    (same : ∀ key ∈ derivation.inputs, entries key = other key) :
    derivation.compute entries = derivation.compute other := by
  cases derivation with
  | instanceNum =>
    have controllers := same "CONTROLLER_NUM" (by decide)
    have workers := same "WORKER_NUM" (by decide)
    simp only [compute, input, controllers, workers]
  | privateKey =>
    have directory := same "PRIVATE_KEY_DIR" (by decide)
    have name := same "KEY_NAME" (by decide)
    simp only [compute, input, directory, name]

theorem lookup?_eq_some_iff {key : String} {derivation : Derivation} :
    lookup? key = some derivation ↔ key = derivation.key := by
  unfold lookup? all
  by_cases count : key = instanceNum.key
  · subst count
    cases derivation <;> simp [key]
  · by_cases path : key = privateKey.key
    · subst path
      cases derivation <;> simp [key]
    · have neither : ∀ other : Derivation, other.key ≠ key := by
        intro other
        cases other
        · exact Ne.symm count
        · exact Ne.symm path
      simp [neither, Ne.symm (neither derivation)]

end LaunchConfig.Derivation
