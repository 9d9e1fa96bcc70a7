import Mathlib.Data.List.Nodup

/-!
# Go's strings and maps

The functions of Go's `strings` package that the program calls, on the characters of a string,
and Go maps with string keys. A `GoMap` is the list of its entries in the order a `range` over
it visits them: `m[k] = v` (`insert`) overwrites the entry of `k` in place or appends one,
`delete(m, k)` (`erase`) drops it, and `insertNew` is the first-wins pattern
`if _, ok := m[k]; !ok { m[k] = v }` that every deduplication of the program uses. Its lookup
after a loop is the first value the loop offered for the key (`lookup_foldl_insertNew`).
-/

namespace Labelgate

/-! ## Strings -/

/-- `strings.HasSuffix`. -/
def hasSuffix (s suffix : String) : Bool := suffix.toList.isSuffixOf s.toList

/-- `strings.HasPrefix`. -/
def hasPrefix (s pfx : String) : Bool := pfx.toList.isPrefixOf s.toList

/-- `strings.TrimSuffix`. -/
def trimSuffix (s suffix : String) : String :=
  if hasSuffix s suffix then ⟨s.toList.take (s.length - suffix.length)⟩ else s

/-- `strings.TrimPrefix`. -/
def trimPrefix (s pfx : String) : String :=
  if hasPrefix s pfx then ⟨s.toList.drop pfx.length⟩ else s

/-- `s[n:]` for a string whose first `n` bytes are ASCII. -/
def dropChars (s : String) (n : Nat) : String := ⟨s.toList.drop n⟩

/-- `strings.Contains`. -/
def strContains (s sub : String) : Bool := go s.toList
where
  /-- Whether `sub` starts at some position of `cs`. -/
  go : List Char → Bool
    | [] => sub.toList.isPrefixOf []
    | c :: cs => sub.toList.isPrefixOf (c :: cs) || go cs

theorem strContains.go_iff (sub : String) (cs : List Char) :
    strContains.go sub cs = true ↔ ∃ a b, cs = a ++ sub.toList ++ b := by
  induction cs with
  | nil => simp [strContains.go, List.isPrefixOf_iff_prefix, List.prefix_nil]
  | cons c cs ih =>
    rw [strContains.go, Bool.or_eq_true, List.isPrefixOf_iff_prefix, ih]
    constructor
    · rintro (⟨t, ht⟩ | ⟨a, b, rfl⟩)
      · exact ⟨[], t, by simpa using ht.symm⟩
      · exact ⟨c :: a, b, rfl⟩
    · rintro ⟨_ | ⟨c', a⟩, b, h⟩
      · exact .inl ⟨b, by simpa using h.symm⟩
      · obtain ⟨rfl, rfl⟩ := List.cons.inj h
        exact .inr ⟨a, b, by simp⟩

/-- `strings.Contains(s, sub)` holds iff `sub` occurs in `s`. -/
theorem strContains_iff (s sub : String) :
    strContains s sub = true ↔ ∃ a b, s.toList = a ++ sub.toList ++ b :=
  strContains.go_iff sub s.toList

theorem strContains_append_right {s t sub : String} (h : strContains t sub = true) :
    strContains (s ++ t) sub = true := by
  obtain ⟨a, b, hab⟩ := (strContains_iff t sub).1 h
  exact (strContains_iff _ _).2 ⟨s.toList ++ a, b, by
    simp only [String.toList, String.data_append] at hab ⊢; simp [hab]⟩

theorem strContains_append_left {s t sub : String} (h : strContains s sub = true) :
    strContains (s ++ t) sub = true := by
  obtain ⟨a, b, hab⟩ := (strContains_iff s sub).1 h
  exact (strContains_iff _ _).2 ⟨a, b ++ t.toList, by
    simp only [String.toList, String.data_append] at hab ⊢; simp [hab]⟩

/-- `unicode.ToUpper` on the letters it maps into ASCII: `a`–`z`, `ı` and `ſ`. Other letters keep
their case here; no text the program compares with an upper-case one can contain them. -/
def upperChar (c : Char) : Char :=
  if c.toNat = 0x131 then 'I' else if c.toNat = 0x17F then 'S' else c.toUpper

/-- `strings.ToUpper`. -/
def toUpper (s : String) : String := ⟨s.toList.map upperChar⟩

/-- `unicode.ToLower` on the letters it maps into ASCII: `A`–`Z`, `İ` and the Kelvin sign. -/
def lowerChar (c : Char) : Char :=
  if c.toNat = 0x130 then 'i' else if c.toNat = 0x212A then 'k' else c.toLower

/-- `strings.ToLower`. -/
def toLower (s : String) : String := ⟨s.toList.map lowerChar⟩

/-- The pieces of `cs` between the occurrences of `sep`. -/
def splitChars (sep : Char) : List Char → List (List Char)
  | [] => [[]]
  | c :: cs =>
    if c = sep then [] :: splitChars sep cs
    else match splitChars sep cs with
      | w :: ws => (c :: w) :: ws
      | [] => [[c]]

/-- `strings.Split(s, sep)` for a one-character separator. -/
def splitOn (s : String) (sep : Char) : List String := (splitChars sep s.toList).map String.mk

/-- `strings.SplitN(s, sep, 3)` when it gives three parts: the text before the first `sep`, the
text between the first two, and the rest. -/
def splitN3 (s : String) (sep : Char) : Option (String × String × String) :=
  match s.toList.span (· ≠ sep) with
  | (a, _ :: r) =>
    match r.span (· ≠ sep) with
    | (b, _ :: c) => some (⟨a⟩, ⟨b⟩, ⟨c⟩)
    | _ => none
  | _ => none

/-- A string with a prefix is the prefix followed by what `TrimPrefix` leaves. -/
theorem eq_append_trimPrefix {s pfx : String} (h : hasPrefix s pfx = true) :
    s = pfx ++ trimPrefix s pfx := by
  obtain ⟨t, ht⟩ := List.isPrefixOf_iff_prefix.1 h
  apply String.ext
  simp only [trimPrefix, h, if_true, String.data_append]
  change s.toList = pfx.toList ++ s.toList.drop pfx.toList.length
  rw [← ht, List.drop_left]

theorem dropWhile_ne_eq_cons {sep x : Char} {l r : List Char} (h : l.dropWhile (· ≠ sep) = x :: r) :
    l = l.takeWhile (· ≠ sep) ++ sep :: r := by
  have hx := List.head_dropWhile_not (· ≠ sep) l (by rw [h]; exact List.cons_ne_nil _ _)
  simp only [h, List.head_cons, decide_eq_false_iff_not, not_not] at hx
  have := List.takeWhile_append_dropWhile (· ≠ sep) l
  rw [h, hx] at this
  exact this.symm

/-- Three parts from `SplitN` are the string cut at its first two separators. -/
theorem splitN3_eq_some {s : String} {sep : Char} {a b c : String}
    (h : splitN3 s sep = some (a, b, c)) : s = a ++ ⟨[sep]⟩ ++ b ++ ⟨[sep]⟩ ++ c := by
  unfold splitN3 at h
  simp only [List.span_eq_take_drop] at h
  split at h
  · rename_i a' x r heq
    split at h
    · rename_i b' y c' heq'
      simp only [Prod.mk.injEq] at heq heq' h
      obtain ⟨rfl, rfl, rfl⟩ := h
      apply String.ext
      change s.toList = _
      simp only [String.data_append]
      rw [dropWhile_ne_eq_cons heq.2, heq.1, dropWhile_ne_eq_cons heq'.2, heq'.1]
      simp
    · cases h
  · cases h

example : trimSuffix "example.com." "." = "example.com" := by decide
example : splitN3 "dns.web.origin.tls_timeout" '.' = some ("dns", "web", "origin.tls_timeout") ∧
    splitOn "a@x.com, ,b@x.com" ',' = ["a@x.com", " ", "b@x.com"] := by decide

/-! ## Maps -/

/-- A Go `map[string]V`: its entries, in the order a `range` over it visits them. -/
abbrev GoMap (V : Type) := List (String × V)

namespace GoMap

variable {V : Type}

/-- `m[k]` with its `ok`. -/
def lookup (m : GoMap V) (k : String) : Option V := (m.find? (·.1 == k)).map (·.2)

/-- `m[k] = v`. -/
def insert : GoMap V → String → V → GoMap V
  | [], k, v => [(k, v)]
  | p :: m, k, v => if p.1 = k then (k, v) :: m else p :: insert m k v

/-- `delete(m, k)`. -/
def erase (m : GoMap V) (k : String) : GoMap V := m.filter (·.1 != k)

/-- `if _, ok := m[k]; !ok { m[k] = v }`: the first value stored under a key stays. -/
def insertNew (m : GoMap V) (k : String) (v : V) : GoMap V :=
  if (m.lookup k).isSome then m else m.insert k v

@[simp] theorem lookup_nil (k : String) : GoMap.lookup ([] : GoMap V) k = none := rfl

theorem mem_of_lookup_eq_some {m : GoMap V} {k : String} {v : V} (h : m.lookup k = some v) :
    (k, v) ∈ m := by
  obtain ⟨p, hp, rfl⟩ := Option.map_eq_some'.1 h
  have hk : p.1 = k := by simpa using List.find?_some hp
  exact hk ▸ List.mem_of_find?_eq_some hp

theorem lookup_cons (p : String × V) (m : GoMap V) (k : String) :
    lookup (p :: m) k = if p.1 = k then some p.2 else m.lookup k := by
  by_cases h : p.1 = k <;> simp [lookup, List.find?_cons, h]

theorem isSome_lookup_iff (m : GoMap V) (k : String) : (m.lookup k).isSome ↔ k ∈ m.map (·.1) := by
  simp [lookup, List.find?_isSome]

@[simp] theorem lookup_insert (m : GoMap V) (k k' : String) (v : V) :
    (m.insert k v).lookup k' = if k = k' then some v else m.lookup k' := by
  induction m with
  | nil => simp [insert, lookup_cons]
  | cons p m ih =>
    by_cases hp : p.1 = k
    · by_cases hk : k = k' <;> simp [insert, lookup_cons, hp, hk]
    · simp only [insert, hp, if_false, lookup_cons, ih]
      split_ifs <;> simp_all

@[simp] theorem lookup_erase (m : GoMap V) (k k' : String) :
    (m.erase k).lookup k' = if k = k' then none else m.lookup k' := by
  induction m with
  | nil => simp [erase, lookup]
  | cons p m ih =>
    simp only [erase] at ih ⊢
    by_cases hp : p.1 = k
    · rw [List.filter_cons_of_neg (by simp [hp]), ih, lookup_cons]
      split_ifs <;> simp_all
    · rw [List.filter_cons_of_pos (by simpa using hp), lookup_cons, lookup_cons, ih]
      split_ifs <;> simp_all

@[simp] theorem lookup_insertNew (m : GoMap V) (k k' : String) (v : V) :
    (m.insertNew k v).lookup k' = (m.lookup k').or (if k = k' then some v else none) := by
  unfold insertNew
  by_cases hk : k = k'
  · subst hk; cases h : m.lookup k <;> simp [h]
  · split <;> simp [hk]

/-- After a first-wins loop, a key holds the value it held before, else the first value the
loop offered for it. -/
theorem lookup_foldl_insertNew (l : List (String × V)) (m : GoMap V) (k : String) :
    (l.foldl (fun m p => m.insertNew p.1 p.2) m).lookup k =
      (m.lookup k).or ((l.find? (·.1 == k)).map (·.2)) := by
  induction l generalizing m with
  | nil => simp
  | cons p l ih =>
    rw [List.foldl_cons, ih, lookup_insertNew, List.find?_cons]
    by_cases hp : p.1 = k
    · cases m.lookup k <;> simp [hp]
    · cases m.lookup k <;> simp [hp, beq_false_of_ne hp]

/-- Among entries with distinct keys, `find?` on a key returns the one entry of that key. -/
theorem find?_key_eq_some_iff {l : List (String × V)} (hnd : (l.map (·.1)).Nodup) {k : String}
    {p : String × V} : l.find? (·.1 == k) = some p ↔ p ∈ l ∧ p.1 = k := by
  refine ⟨fun h => ⟨List.mem_of_find?_eq_some h, by simpa using List.find?_some h⟩, ?_⟩
  rintro ⟨hp, rfl⟩
  have hsome : (l.find? (·.1 == p.1)).isSome := List.find?_isSome.2 ⟨p, hp, by simp⟩
  obtain ⟨q, hq⟩ := Option.isSome_iff_exists.1 hsome
  rw [hq, List.inj_on_of_nodup_map hnd (List.mem_of_find?_eq_some hq) hp
    (by simpa using List.find?_some hq)]

/-- With distinct keys, the lookup after a first-wins loop does not depend on the order in which
the loop offers the entries. -/
theorem lookup_foldl_insertNew_perm {l l' : List (String × V)} (hp : l.Perm l')
    (hnd : (l.map (·.1)).Nodup) (m : GoMap V) (k : String) :
    (l.foldl (fun m p => m.insertNew p.1 p.2) m).lookup k =
      (l'.foldl (fun m p => m.insertNew p.1 p.2) m).lookup k := by
  have hfind : l.find? (·.1 == k) = l'.find? (·.1 == k) := Option.ext fun p => by
    rw [Option.mem_def, Option.mem_def, find?_key_eq_some_iff hnd,
      find?_key_eq_some_iff ((hp.map _).nodup_iff.1 hnd), hp.mem_iff]
  rw [lookup_foldl_insertNew, lookup_foldl_insertNew, hfind]

/-- What a first-wins loop keeps under a key, read through `g`, is what the loop over the entries
read through `g` keeps. -/
theorem map_lookup_foldl_insertNew {W : Type} (g : V → W) (l : List (String × V)) (k : String) :
    ((l.foldl (fun (m : GoMap V) p => m.insertNew p.1 p.2) []).lookup k).map g =
      ((l.map fun p => (p.1, g p.2)).foldl (fun (m : GoMap W) p => m.insertNew p.1 p.2) []).lookup k := by
  rw [lookup_foldl_insertNew, lookup_foldl_insertNew, List.find?_map]
  simp [Function.comp_def, Option.map_map]

/-- After a grouping loop `m[f(x)] = append(m[f(x)], x)`, a key holds the values it held
before, then those the loop filed under it, in order. -/
theorem getD_lookup_foldl_group (f : V → String) (l : List V) (m : GoMap (List V)) (k : String) :
    ((l.foldl (fun (m : GoMap (List V)) x => m.insert (f x) (((m.lookup (f x)).getD []) ++ [x])) m).lookup
      k).getD [] = (m.lookup k).getD [] ++ l.filter (f · == k) := by
  induction l generalizing m with
  | nil => simp
  | cons x l ih =>
    rw [List.foldl_cons, ih, lookup_insert]
    by_cases hx : f x = k
    · subst hx; simp
    · simp [hx]

theorem mem_insert {m : GoMap V} {k : String} {v : V} {p : String × V} (h : p ∈ m.insert k v) :
    p = (k, v) ∨ p ∈ m := by
  induction m with
  | nil => simpa [insert] using h
  | cons q m ih =>
    simp only [insert] at h
    split at h
    · exact (List.mem_cons.1 h).imp_right (List.mem_cons_of_mem _)
    · rcases List.mem_cons.1 h with rfl | h
      · exact .inr (List.mem_cons_self _ _)
      · exact (ih h).imp_right (List.mem_cons_of_mem _)

/-- After a loop that stores each value under its own key, a key holds the last value the loop
offered for it, else what it held before. -/
theorem lookup_foldl_insert (f : V → String) (l : List V) (m : GoMap V) (k : String) :
    (l.foldl (fun m x => m.insert (f x) x) m).lookup k =
      (l.reverse.find? (f · == k)).or (m.lookup k) := by
  induction l generalizing m with
  | nil => simp
  | cons x l ih =>
    rw [List.foldl_cons, ih, lookup_insert, List.reverse_cons, List.find?_append, Option.or_assoc]
    by_cases hx : f x = k <;> simp [hx]

theorem lookup_foldl_insert_eq_some {f : V → String} {l : List V} {k : String} {v : V}
    (h : (l.foldl (fun (m : GoMap V) x => m.insert (f x) x) []).lookup k = some v) : v ∈ l ∧ f v = k := by
  rw [lookup_foldl_insert, lookup_nil, Option.or_none] at h
  exact ⟨List.mem_reverse.1 (List.mem_of_find?_eq_some h), by simpa using List.find?_some h⟩

theorem isSome_lookup_foldl_insert (f : V → String) {l : List V} {x : V} (hx : x ∈ l) :
    ((l.foldl (fun (m : GoMap V) x => m.insert (f x) x) []).lookup (f x)).isSome := by
  rw [lookup_foldl_insert, lookup_nil, Option.or_none]
  exact List.find?_isSome.2 ⟨x, List.mem_reverse.2 hx, by simp⟩

/-- Every entry of a first-wins loop was there before or was offered by the loop. -/
theorem mem_foldl_insertNew {l : List (String × V)} {m : GoMap V} {p : String × V}
    (h : p ∈ l.foldl (fun m p => m.insertNew p.1 p.2) m) : p ∈ m ∨ p ∈ l := by
  induction l generalizing m with
  | nil => exact .inl h
  | cons q l ih =>
    rcases ih h with h | h
    · dsimp only [insertNew] at h
      split at h
      · exact .inl h
      · rcases mem_insert h with rfl | h
        · exact .inr (List.mem_cons_self _ _)
        · exact .inl h
    · exact .inr (List.mem_cons_of_mem _ h)

/-- Every entry such a loop adds is one of its values, under its own key. -/
theorem mem_foldl_insert (f : V → String) (l : List V) (m : GoMap V) {p : String × V}
    (h : p ∈ l.foldl (fun m x => m.insert (f x) x) m) : p ∈ m ∨ p.2 ∈ l ∧ p.1 = f p.2 := by
  induction l generalizing m with
  | nil => exact .inl h
  | cons x l ih =>
    rcases ih _ h with h | ⟨hl, hk⟩
    · rcases mem_insert h with rfl | h
      · exact .inr ⟨List.mem_cons_self _ _, rfl⟩
      · exact .inl h
    · exact .inr ⟨List.mem_cons_of_mem _ hl, hk⟩

end GoMap

end Labelgate
