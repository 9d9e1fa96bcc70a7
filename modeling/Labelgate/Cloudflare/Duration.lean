import Mathlib.Algebra.Group.Int
import Labelgate.Types

/-!
# Durations in origin options

`parseDurationToSeconds` (`cloudflare/tunnel.go`) and the parts of Go's standard library it
calls: `strings.TrimSpace`, `time.ParseDuration` (with `leadingInt`, `leadingFraction` and
`unitMap`), `Duration.Seconds` and `strconv.ParseInt`. Go computes the fractional part of a
duration component and `Seconds` in `float64`; here both are exact (`f * unit / scale` rounded
down, nanoseconds divided by `10 ^ 9` towards zero).
-/

namespace Labelgate

namespace GoTime

/-- `unicode.IsSpace`. -/
def isSpace (c : Char) : Bool :=
  c = '\t' || c = '\n' || c = '\x0b' || c = '\x0c' || c = '\r' || c = ' ' ||
    c.toNat = 0x85 || c.toNat = 0xA0 || c.toNat = 0x1680 ||
    (0x2000 ≤ c.toNat && c.toNat ≤ 0x200A) || c.toNat = 0x2028 || c.toNat = 0x2029 ||
    c.toNat = 0x202F || c.toNat = 0x205F || c.toNat = 0x3000

/-- `strings.TrimSpace`. -/
def trimSpace (s : String) : String :=
  ⟨((s.toList.dropWhile isSpace).reverse.dropWhile isSpace).reverse⟩

/-- `'0' <= c && c <= '9'`. -/
def isDigit (c : Char) : Bool := '0' ≤ c && c ≤ '9'

/-- `time.unitMap`: nanoseconds per unit. -/
def unitMap : String → Option Nat
  | "ns" => some 1
  | "us" => some 1000
  | "µs" => some 1000
  | "μs" => some 1000
  | "ms" => some 1000000
  | "s" => some 1000000000
  | "m" => some 60000000000
  | "h" => some 3600000000000
  | _ => none

/-- `leadingInt`: the value of the leading digits and the rest, or `none` past `2 ^ 63`. -/
def leadingInt : List Char → Nat → Option (Nat × List Char)
  | c :: s, x =>
    if isDigit c then
      if x > 2 ^ 63 / 10 then none
      else
        let x := x * 10 + (c.toNat - '0'.toNat)
        if x > 2 ^ 63 then none else leadingInt s x
    else some (x, c :: s)
  | [], x => some (x, [])

/-- `leadingFraction`: the value of the leading digits, `10 ^ (digits kept)`, and the rest;
digits past the point where the value would overflow are consumed and ignored. -/
def leadingFraction : List Char → Nat → Nat → Bool → Nat × Nat × List Char
  | c :: s, x, scale, overflow =>
    if isDigit c then
      if overflow then leadingFraction s x scale true
      else if x > (2 ^ 63 - 1) / 10 then leadingFraction s x scale true
      else
        let y := x * 10 + (c.toNat - '0'.toNat)
        if y > 2 ^ 63 then leadingFraction s x scale true
        else leadingFraction s y (scale * 10) false
    else (x, scale, c :: s)
  | [], x, scale, _ => (x, scale, [])

/-- The components `([0-9]*(\.[0-9]*)?[a-z]+)+` of a duration, summed in nanoseconds into `d`;
`none` on a malformed component or on overflow. The fuel is the length of the input. -/
def components : Nat → List Char → Nat → Option Nat
  | _, [], d => some d
  | 0, _ :: _, _ => none
  | fuel + 1, c :: s, d => do
    if !(c = '.' || isDigit c) then none
    let (v, s') ← leadingInt (c :: s) 0
    let pre := s'.length != (c :: s).length
    let (f, scale, post, s') := match s' with
      | '.' :: r =>
        let (f, scale, r') := leadingFraction r 0 1 false
        (f, scale, r'.length != r.length, r')
      | _ => (0, 1, false, s')
    if !pre && !post then none
    let u := s'.takeWhile fun c => !(c = '.' || isDigit c)
    if u = [] then none
    let unit ← unitMap ⟨u⟩
    if v > 2 ^ 63 / unit then none
    let v := v * unit + f * unit / scale
    if v > 2 ^ 63 then none
    let d := d + v
    if d > 2 ^ 63 then none
    components fuel (s'.drop u.length) d

/-- `time.ParseDuration`, in nanoseconds. -/
def parseDuration (s : String) : Option Int :=
  let (neg, rest) := match s.toList with
    | '-' :: r => (true, r)
    | '+' :: r => (false, r)
    | r => (false, r)
  if rest = ['0'] then some 0
  else if rest = [] then none
  else do
    let d ← components rest.length rest 0
    if neg then some (-(d : Int))
    else if d > 2 ^ 63 - 1 then none
    else some d

/-- `strconv.ParseInt(s, 10, 64)`. -/
def parseInt (s : String) : Option Int :=
  let (neg, digits) := match s.toList with
    | '-' :: r => (true, r)
    | '+' :: r => (false, r)
    | r => (false, r)
  if digits = [] || !digits.all isDigit then none
  else
    let n : Nat := digits.foldl (fun n c => n * 10 + (c.toNat - '0'.toNat)) 0
    let v : Int := if neg then -(n : Int) else n
    if v < -(2 ^ 63) || v > 2 ^ 63 - 1 then none else some v

end GoTime

/-- `parseDurationToSeconds`: a Go duration in whole seconds, else a bare integer, else `0`. -/
def parseDurationToSeconds (s : String) : Int :=
  let s := GoTime.trimSpace s
  if s = "" then 0
  else match GoTime.parseDuration s with
    | some d => d.tdiv 1000000000
    | none => (GoTime.parseInt s).getD 0

example : parseDurationToSeconds "1m" = 60 := by decide
example : parseDurationToSeconds " 30 " = 30 := by decide
example : parseDurationToSeconds "1.5s" = 1 := by decide

/-! ## Whole seconds read back

The API stores a duration in seconds and `GetTunnelConfiguration` reads it back as `<n>s`
(`convertGetResponseOriginRequest`); `parseDurationToSeconds` turns that back into `n`, for every
`n` up to the largest Go duration in seconds. -/

namespace GoTime

/-- The value of a list of decimal digits, read after `x` as `leadingInt` and `strconv` read it. -/
def digitsValue (l : List Char) (x : Nat) : Nat :=
  l.foldl (fun x c => x * 10 + (c.toNat - '0'.toNat)) x

@[simp] theorem digitsValue_nil (x : Nat) : digitsValue [] x = x := rfl

@[simp] theorem digitsValue_cons (c : Char) (l : List Char) (x : Nat) :
    digitsValue (c :: l) x = digitsValue l (x * 10 + (c.toNat - '0'.toNat)) := rfl

theorem digitsValue_append (l l' : List Char) (x : Nat) :
    digitsValue (l ++ l') x = digitsValue l' (digitsValue l x) := List.foldl_append _ _ _ _

theorem digitChar_digit :
    ∀ k < 10, isDigit (Nat.digitChar k) = true ∧ (Nat.digitChar k).toNat - '0'.toNat = k := by
  decide

theorem le_digitsValue (l : List Char) (x : Nat) : x ≤ digitsValue l x := by
  induction l generalizing x with
  | nil => exact le_rfl
  | cons c l ih =>
    have := ih (x * 10 + (c.toNat - '0'.toNat))
    rw [digitsValue_cons]; omega

theorem leadingInt_digits {l : List Char} (hl : ∀ c ∈ l, isDigit c = true) (r : List Char) {x : Nat}
    (hx : digitsValue l x ≤ 2 ^ 63) : leadingInt (l ++ r) x = leadingInt r (digitsValue l x) := by
  induction l generalizing x with
  | nil => rfl
  | cons c l ih =>
    have hle := le_digitsValue l (x * 10 + (c.toNat - '0'.toNat))
    rw [digitsValue_cons] at hx ⊢
    rw [List.cons_append, leadingInt, if_pos (hl c (List.mem_cons_self _ _)), if_neg (by omega),
      if_neg (by omega)]
    exact ih (fun c hc => hl c (List.mem_cons_of_mem _ hc)) hx

/-- One step of Lean's decimal printing, as `Nat.toDigitsCore` computes it. -/
theorem toDigitsCore_succ (fuel n : Nat) (ds : List Char) :
    Nat.toDigitsCore 10 (fuel + 1) n ds = if n / 10 = 0 then Nat.digitChar (n % 10) :: ds
      else Nat.toDigitsCore 10 fuel (n / 10) (Nat.digitChar (n % 10) :: ds) := rfl

theorem toDigitsCore_append (fuel n : Nat) (ds : List Char) :
    Nat.toDigitsCore 10 fuel n ds = Nat.toDigitsCore 10 fuel n [] ++ ds := by
  induction fuel generalizing n ds with
  | zero => rfl
  | succ fuel ih =>
    simp only [toDigitsCore_succ]
    split
    · rfl
    · rw [ih _ (_ :: ds), ih _ [_], List.append_assoc, List.singleton_append]

/-- The decimal digits Lean prints for `n` are digits, and read back as `n`. -/
theorem toDigitsCore_digits (fuel n : Nat) (hn : n < fuel) :
    Nat.toDigitsCore 10 fuel n [] ≠ [] ∧ (∀ c ∈ Nat.toDigitsCore 10 fuel n [], isDigit c = true) ∧
      digitsValue (Nat.toDigitsCore 10 fuel n []) 0 = n := by
  induction fuel generalizing n with
  | zero => omega
  | succ fuel ih =>
    have hd := digitChar_digit (n % 10) (Nat.mod_lt _ (by omega))
    rw [toDigitsCore_succ]
    split
    · refine ⟨List.cons_ne_nil _ _, by simpa using hd.1, ?_⟩
      simp only [digitsValue_cons, digitsValue_nil, hd.2]
      omega
    · obtain ⟨hne, hdig, hval⟩ := ih (n / 10) (by omega)
      rw [toDigitsCore_append]
      refine ⟨by simp, fun c hc => ?_, ?_⟩
      · rcases List.mem_append.1 hc with hc | hc
        · exact hdig c hc
        · simpa [List.mem_singleton.1 hc] using hd.1
      · rw [digitsValue_append, hval, digitsValue_cons, digitsValue_nil, hd.2]
        omega

/-- One step of `components` on a non-empty input. -/
theorem components_cons (fuel : Nat) (c : Char) (s : List Char) (d : Nat) :
    components (fuel + 1) (c :: s) d = (do
      if !(c = '.' || isDigit c) then none
      let (v, s') ← leadingInt (c :: s) 0
      let pre := s'.length != (c :: s).length
      let (f, scale, post, s') := match s' with
        | '.' :: r =>
          let (f, scale, r') := leadingFraction r 0 1 false
          (f, scale, r'.length != r.length, r')
        | _ => (0, 1, false, s')
      if !pre && !post then none
      let u := s'.takeWhile fun c => !(c = '.' || isDigit c)
      if u = [] then none
      let unit ← unitMap ⟨u⟩
      if v > 2 ^ 63 / unit then none
      let v := v * unit + f * unit / scale
      if v > 2 ^ 63 then none
      let d := d + v
      if d > 2 ^ 63 then none
      components fuel (s'.drop u.length) d) := rfl

theorem components_nil (fuel d : Nat) : components fuel [] d = some d := by
  cases fuel <;> rfl

/-- Whole seconds `<digits>s` parse to their value in nanoseconds, up to the largest duration. -/
theorem components_seconds {l : List Char} (hne : l ≠ []) (hl : ∀ c ∈ l, isDigit c = true)
    (hv : digitsValue l 0 ≤ 9223372036) {fuel : Nat} (hfuel : 0 < fuel) :
    components fuel (l ++ ['s']) 0 = some (digitsValue l 0 * 1000000000) := by
  obtain ⟨c, t, rfl⟩ := List.exists_cons_of_ne_nil hne
  obtain ⟨fuel, rfl⟩ : ∃ f, fuel = f + 1 := ⟨fuel - 1, by omega⟩
  have hlead : leadingInt (c :: (t ++ ['s'])) 0 = some (digitsValue (c :: t) 0, ['s']) := by
    rw [← List.cons_append, leadingInt_digits hl _ (by omega)]
    rfl
  have htake : List.takeWhile (fun c => !(decide (c = '.') || isDigit c)) ['s'] = ['s'] := by decide
  have hunit : unitMap ⟨['s']⟩ = some 1000000000 := by decide
  have hlen : (1 != (c :: (t ++ ['s'])).length) = true := by simp
  have hunder : ¬digitsValue (c :: t) 0 * 1000000000 > 9223372036854775808 := by omega
  rw [List.cons_append, components_cons, hlead]
  simp only [hl c (List.mem_cons_self _ _), htake, hunit, hlen, hunder, not_lt.2 hv, if_false,
    components_nil, Nat.zero_mul, Nat.zero_div, Nat.add_zero, Nat.zero_add, Nat.reducePow,
    Nat.reduceDiv, List.cons_ne_nil, Bool.or_true, Bool.not_true, Bool.false_eq_true,
    Option.bind_eq_bind, Option.some_bind, Option.pure_def, ↓Char.isValue, List.cons.injEq,
    Char.reduceEq, List.nil_eq, false_and, imp_self, implies_true, Bool.not_false, Bool.and_true,
    Option.none_bind, List.length_singleton, List.drop_one, List.tail_cons, gt_iff_lt]

theorem isSpace_of_isDigit {c : Char} (h : isDigit c = true) : isSpace c = false := by
  have hb : 48 ≤ c.toNat ∧ c.toNat ≤ 57 := by
    simp only [isDigit, Bool.and_eq_true, decide_eq_true_eq] at h
    exact ⟨h.1, h.2⟩
  have hne : ∀ d : Char, d.toNat < 48 ∨ 57 < d.toNat → c ≠ d := fun d hd hcd => by subst hcd; omega
  simp (disch := decide) only [isSpace, hne, decide_False, Bool.false_or, Bool.or_eq_false_iff,
    decide_eq_false_iff_not, Bool.and_eq_false_iff]
  omega

theorem ne_of_isDigit {c : Char} (h : isDigit c = true) {d : Char} (hd : isDigit d = false) : c ≠ d :=
  fun hcd => by rw [hcd] at h; exact absurd h (by simp [hd])

theorem trimSpace_seconds {c : Char} (hc : isDigit c = true) (t : List Char) :
    trimSpace ⟨c :: (t ++ ['s'])⟩ = ⟨c :: (t ++ ['s'])⟩ := by
  have hs : isSpace 's' = false := by decide
  simp [trimSpace, String.toList, List.dropWhile_cons, isSpace_of_isDigit hc, hs]

theorem parseDuration_seconds {l : List Char} (hne : l ≠ []) (hl : ∀ c ∈ l, isDigit c = true)
    (hv : digitsValue l 0 ≤ 9223372036) :
    parseDuration ⟨l ++ ['s']⟩ = some ((digitsValue l 0 * 1000000000 : Nat) : Int) := by
  obtain ⟨c, t, rfl⟩ := List.exists_cons_of_ne_nil hne
  have hc := hl c (List.mem_cons_self _ _)
  have hminus := ne_of_isDigit hc (d := '-') (by decide)
  have hplus := ne_of_isDigit hc (d := '+') (by decide)
  unfold parseDuration
  have hbound : ¬digitsValue (c :: t) 0 * 1000000000 > 2 ^ 63 - 1 := by omega
  simp only [String.toList, List.cons_append, List.cons.injEq, hminus, hplus, false_and, imp_self,
    implies_true, List.append_eq_nil, List.cons_ne_nil, and_false, if_false, reduceCtorEq]
  rw [← List.cons_append, components_seconds hne hl hv (by simp)]
  simp only [Option.bind_eq_bind, Option.some_bind, hbound, if_false]

end GoTime

/-- The whole seconds the API reads back, `<n>s`, parse to `n`, for every `n` up to the largest
duration in seconds. -/
theorem parseDurationToSeconds_secondsString {n : Int} (hpos : 0 < n) (hle : n ≤ 9223372036) :
    parseDurationToSeconds (toString n ++ "s") = n := by
  obtain ⟨m, rfl⟩ := Int.eq_ofNat_of_zero_le hpos.le
  obtain ⟨hne, hdig, hval⟩ := GoTime.toDigitsCore_digits (m + 1) m (by omega)
  have hstr : toString (m : Int) ++ "s" = ⟨Nat.toDigitsCore 10 (m + 1) m [] ++ ['s']⟩ := rfl
  obtain ⟨c, t, hct⟩ := List.exists_cons_of_ne_nil hne
  have hc : GoTime.isDigit c = true := hdig c (hct ▸ List.mem_cons_self _ _)
  have hdur := GoTime.parseDuration_seconds hne hdig (by omega)
  rw [hval, hct, List.cons_append] at hdur
  have hnonempty : (⟨c :: (t ++ ['s'])⟩ : String) ≠ "" := fun h =>
    List.cons_ne_nil _ _ (congrArg String.data h)
  rw [hstr, hct, List.cons_append, parseDurationToSeconds, GoTime.trimSpace_seconds hc]
  simp only [if_neg hnonempty, hdur]
  show ((m * 1000000000 / 1000000000 : Nat) : Int) = m
  rw [Nat.mul_div_cancel _ (by omega)]

end Labelgate
