import ContentQuery.Proofs.NumberOrder

/-!
# ContentQuery.Proofs.ExactComparison

Numbers are compared after rounding, and they are rounded in different ways: an integer as a whole,
or to an infinity where it has too many digits or is out of range, and a decimal by its digits. All
of these give the number nearest to the exact value, so that no comparison contradicts the values as
they are written.
-/

namespace ContentQuery

/-- Whether a path leads to a number with this exact value: to a numeral in JSON text, or to an
integer in a payload that is no text. -/
inductive Payload.HasNumber [Limits] (path : Text) : Payload → ℚ → Prop
  | written {s : Text} {spelling : Json.Spelling} {numeral : Json.Numeral}
      (hread : Json.Spelling.read Limits.contentText s = .ok spelling)
      (hat : spelling.at? path = some (.number numeral)) :
      HasNumber path (.json (.string s)) numeral.decimal.exactValue
  | decoded {payload : Payload} {root : Json} {n : Int} (hroot : payload.root? = some root)
      (hat : Path.resolve? root path = .ok (some (.int n))) : HasNumber path payload n

namespace Path

/-- No path leads into a string. -/
theorem resolve?_string (s : Text) {path : Text} (hpath : path ≠ []) (target : Json) :
    resolve? (.string s) path ≠ .ok (some target) := by
  rw [resolve?, if_neg hpath]
  obtain ⟨component, rest, hcomponents⟩ := List.exists_cons_of_ne_nil (components_ne_nil path)
  have hnone : follow? (.string s) (component :: rest) = .ok none := rfl
  rw [hcomponents, hnone, ne_eq, Except.ok.injEq]
  exact (Option.some_ne_none target).symm

end Path

/-- What is compared is the number nearest to the exact value. -/
theorem Payload.HasNumber.exists_isNearest [Limits] {payload : Payload} {path : Text} {q : ℚ}
    (hpath : path ≠ []) (h : payload.HasNumber path q) :
    ∃ root target x, Content.ofPayload payload = .ok (.json root) ∧
      Path.resolve? root path = .ok (some target) ∧ target.number? = some x ∧ x.IsNearest q := by
  cases h with
  | @written s spelling numeral hread hat =>
      obtain ⟨x, hx, hnearest⟩ := numeral.exists_isNearest
      refine ⟨spelling.value, numeral.value, x, ?_, Json.Spelling.resolve?_value hat, hx, hnearest⟩
      rw [Content.ofPayload, Content.ofText, Json.read_eq_map_value, hread]
      rfl
  | @decoded _ root n hroot hat =>
      refine ⟨root, .int n, .ofInt n, ?_, hat, rfl, Binary64.isNearest_ofInt n⟩
      unfold Content.ofPayload
      split
      · next s =>
          rw [← Option.some.inj hroot] at hat
          exact absurd hat (Path.resolve?_string s hpath _)
      · rw [hroot]

/-- In JSON text the exact value is that of a numeral which stands in the text. -/
theorem Payload.HasNumber.exists_numeral [Limits] {s path : Text} {q : ℚ} (hpath : path ≠ [])
    (h : (Payload.json (.string s)).HasNumber path q) :
    ∃ numeral : Json.Numeral, numeral.text <:+: s ∧ numeral.decimal.exactValue = q := by
  cases h with
  | @written _ spelling numeral hread hat =>
      exact ⟨numeral, Json.Spelling.infix_of_at? hread hat, rfl⟩
  | @decoded _ root n hroot hat =>
      rw [← Option.some.inj hroot] at hat
      exact absurd hat (Path.resolve?_string s hpath _)

/-- A comparison of a number with a numeral never contradicts their exact values: where these are in
an order, so are the numbers that are compared, and where they are equal, the numbers are equal. Two
values that the binary format has are kept apart. If the payload is JSON text, the value of the
number is that of a numeral as it stands in the text. -/
theorem comparison_of_exact_values [Limits] {payload : Payload} {path : Text} {q : ℚ}
    (hpath : path ≠ []) (hnumber : payload.HasNumber path q) (numeral : WrittenNumeral)
    (source : Text) :
    let outcome op := matchesQuery payload (some (Query.comparing path op numeral.text source))
    let r := numeral.decimal.exactValue
    (∀ s, payload = .json (.string s) →
      ∃ written : Json.Numeral, written.text <:+: s ∧ written.decimal.exactValue = q) ∧
    (q ≤ r → outcome .lessThanOrEquals = .ok true ∧ outcome .greaterThan = .ok false) ∧
    (r ≤ q → outcome .greaterThanOrEquals = .ok true ∧ outcome .lessThan = .ok false) ∧
    (q = r → outcome .equals = .ok true ∧ outcome .notEquals = .ok false) ∧
    (Binary64.IsExact q → Binary64.IsExact r →
      (q < r → outcome .lessThan = .ok true ∧ outcome .greaterThanOrEquals = .ok false) ∧
      (r < q → outcome .greaterThan = .ok true ∧ outcome .lessThanOrEquals = .ok false)) := by
  intro outcome r
  obtain ⟨root, target, x, hcontent, htarget, hx, hnearest⟩ := hnumber.exists_isNearest hpath
  have hliteral : Literal.parse numeral.text = .number numeral.decimal.toBinary64 :=
    WrittenLiteral.parse_text (.number numeral)
  have hnumeral : numeral.decimal.toBinary64.IsNearest r := numeral.decimal.isNearest_toBinary64
  have houtcome {op : Operator} {b : Bool} (hop : op.onNumbers = true)
      (h : op.testNumbers x numeral.decimal.toBinary64 = b) : outcome op = .ok b :=
    h ▸ matchesQuery_comparing hcontent hpath htarget hx hliteral hop source
  refine ⟨?_, ?_, ?_, ?_, ?_⟩
  · rintro s rfl
    exact hnumber.exists_numeral hpath
  · intro h
    exact ⟨houtcome rfl (hnearest.le hnumeral h), houtcome rfl (hnearest.not_lt hnumeral h)⟩
  · intro h
    exact ⟨houtcome rfl (hnumeral.le hnearest h), houtcome rfl (hnumeral.not_lt hnearest h)⟩
  · intro h
    rw [h] at hnearest
    have heq := hnearest.eq hnumeral
    exact ⟨houtcome rfl heq, houtcome rfl (congrArg not heq)⟩
  · intro hq hr
    constructor
    · intro h
      exact ⟨houtcome rfl (hnearest.lt hnumeral hq hr h),
        houtcome rfl (hnearest.not_le hnumeral hq hr h)⟩
    · intro h
      exact ⟨houtcome rfl (hnumeral.lt hnearest hr hq h),
        houtcome rfl (hnumeral.not_le hnearest hr hq h)⟩

namespace ExactComparison

/-- The smallest positive integer that is no number of the binary format, 2^53 + 1, as a JSON
numeral. -/
def integer : Json.Numeral where
  mantissa := ⟨false, "9007199254740993", none, rfl, nofun⟩
  power := none
  isWhole := ⟨List.all_eq_true.mp rfl, .inr ⟨List.cons_ne_nil _ _, by decide⟩⟩

/-- The same value as a decimal. -/
def decimal : WrittenNumeral where
  negative := false
  whole := "9007199254740993"
  fraction := some (Text.ofString "0")
  isDigits_whole := rfl
  isDigits_fraction := by
    rintro digits ⟨⟩
    rfl

theorem comparison_of_exact_values_integer :
    let payload : Payload := .json (.string ("[" ++ integer.text ++ "]"))
    let outcome op := matchesQuery payload (some (Query.comparing "0" op decimal.text []))
    outcome .equals = .ok true ∧ outcome .lessThanOrEquals = .ok true ∧
      outcome .greaterThan = .ok false := by
  have hread : Json.Spelling.read Limits.contentText ("[" ++ integer.text ++ "]") =
      .ok (.array [.number integer]) := rfl
  have hnumber : Payload.HasNumber "0" (.json (.string ("[" ++ integer.text ++ "]")))
      integer.decimal.exactValue := .written hread rfl
  have hvalue : integer.decimal.exactValue = decimal.decimal.exactValue := by
    have hinteger : integer.decimal = ⟨false, 9007199254740993, 0⟩ := rfl
    have hdecimal : decimal.decimal = ⟨false, 90071992547409930, -1⟩ := rfl
    rw [hinteger, hdecimal]
    norm_num [Decimal.exactValue, Binary64.exactSigned]
  obtain ⟨-, hle, -, heq, -⟩ := comparison_of_exact_values (by decide) hnumber decimal []
  exact ⟨(heq hvalue).1, hle hvalue.le⟩

end ExactComparison

end ContentQuery
