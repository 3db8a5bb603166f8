import StatementStoreTools.QueryPhase
import StatementStoreTools.UnitNumbers

/-!
# The durations of the query report

The report shows the time to an expiry in days, hours, minutes and seconds, and
leaves out the units in front that are zero.  `DurationFields` says which
figures may stand for a number of seconds.  There is one such list for each
number (`DurationFields.eq_durationFields`), and it is the one the code writes:
every unit goes into the buffer that is not zero or finds the buffer not empty
(`pushUnit_toList`), which leaves out the zeros in front.

* `formatDurationSecs_eq_iff` — the text of a duration is the only one that
  reads as figures for it;
* `readRemaining_formatRemaining` — the text of `format_remaining` tells the
  difference of the two times.
-/

namespace StatementStore

open DashNames UnitNumbers

inductive TimeUnit
  | days
  | hours
  | minutes
  | seconds
  deriving DecidableEq, Repr

def timeUnits : Units TimeUnit where
  letter
    | .days => 'd'
    | .hours => 'h'
    | .minutes => 'm'
    | .seconds => 's'
  ofLetter
    | 'd' => some .days
    | 'h' => some .hours
    | 'm' => some .minutes
    | 's' => some .seconds
    | _ => none
  weight
    | .days => 86400
    | .hours => 3600
    | .minutes => 60
    | .seconds => 1
  ofLetter_eq_some := by
    intro c u
    constructor
    · intro h
      split at h <;> cases h <;> rfl
    · intro h
      subst h
      cases u <;> rfl
  letter_not_digit := by
    intro u
    cases u <;> decide

/-! ## The figures -/

/-- `fields` are figures for `n` seconds. -/
structure DurationFields (fields : List (Nat × TimeUnit)) (n : Nat) : Prop where
  ne_nil : fields ≠ []
  /-- the units follow each other down to the seconds -/
  units : fields.map Prod.snd <:+ [.days, .hours, .minutes, .seconds]
  hours_lt : ∀ v, (v, TimeUnit.hours) ∈ fields → v < 24
  minutes_lt : ∀ v, (v, TimeUnit.minutes) ∈ fields → v < 60
  seconds_lt : ∀ v, (v, TimeUnit.seconds) ∈ fields → v < 60
  /-- only a plain seconds figure begins with a zero -/
  leading : ∀ f ∈ fields.head?, f.1 ≠ 0 ∨ fields = [(f.1, .seconds)]
  total : timeUnits.total fields = n

/-- The figures in front of the seconds, zeros included. -/
def upperFields (n : Nat) : List (Nat × TimeUnit) :=
  [(n / 86400, .days), (n % 86400 / 3600, .hours), (n % 3600 / 60, .minutes)]

/-- The figures for `n` seconds. -/
def durationFields (n : Nat) : List (Nat × TimeUnit) :=
  (upperFields n).dropWhile (fun f => f.1 = 0) ++ [(n % 60, .seconds)]

section Figures

variable {fields : List (Nat × TimeUnit)} {n v : Nat} {u : TimeUnit}

theorem durationFields_suffix (n : Nat) :
    durationFields n <:+ upperFields n ++ [(n % 60, .seconds)] := by
  obtain ⟨zeros, hzeros⟩ := List.dropWhile_suffix (l := upperFields n) fun f => f.1 = 0
  refine ⟨zeros, ?_⟩
  rw [durationFields, ← List.append_assoc, hzeros]

theorem mem_durationFields (h : (v, u) ∈ durationFields n) :
    match u with
    | .days => v = n / 86400
    | .hours => v = n % 86400 / 3600
    | .minutes => v = n % 3600 / 60
    | .seconds => v = n % 60 := by
  have hmem := (durationFields_suffix n).subset h
  simp only [upperFields, List.cons_append, List.nil_append, List.mem_cons, Prod.mk.injEq,
    List.not_mem_nil, or_false] at hmem
  obtain ⟨hv, rfl⟩ | ⟨hv, rfl⟩ | ⟨hv, rfl⟩ | ⟨hv, rfl⟩ := hmem
  all_goals exact hv

theorem durationFields_total (n : Nat) : timeUnits.total (durationFields n) = n := by
  rw [durationFields, Units.total_append, Units.total_dropWhile_zero]
  simp only [Units.total, upperFields, timeUnits, List.map_cons, List.map_nil, List.sum_cons,
    List.sum_nil]
  omega

theorem durationFields_leading (n : Nat) :
    ∀ f ∈ (durationFields n).head?, f.1 ≠ 0 ∨ durationFields n = [(f.1, .seconds)] := by
  intro f hf
  have hhead := List.head?_dropWhile_not (fun f : Nat × TimeUnit => f.1 = 0) (upperFields n)
  rw [durationFields] at hf ⊢
  cases hupper : (upperFields n).dropWhile (fun f => f.1 = 0) with
  | nil =>
      rw [hupper] at hf
      obtain rfl := Option.some.inj hf
      exact .inr rfl
  | cons g upper =>
      rw [hupper] at hf hhead
      obtain rfl := Option.some.inj hf
      exact .inl (of_decide_eq_false hhead)

theorem durationFields_spec (n : Nat) : DurationFields (durationFields n) n where
  ne_nil := by simp [durationFields]
  units := (durationFields_suffix n).map Prod.snd
  hours_lt := by
    intro v h
    have hv : v = n % 86400 / 3600 := mem_durationFields h
    omega
  minutes_lt := by
    intro v h
    have hv : v = n % 3600 / 60 := mem_durationFields h
    omega
  seconds_lt := by
    intro v h
    have hv : v = n % 60 := mem_durationFields h
    omega
  leading := durationFields_leading n
  total := durationFields_total n

private theorem fields_cons {us : List TimeUnit} (h : fields.map Prod.snd = u :: us) :
    ∃ v rest, fields = (v, u) :: rest ∧ rest.map Prod.snd = us := by
  obtain ⟨⟨v, u⟩, rest, rfl, rfl, rfl⟩ := List.map_eq_cons_iff.mp h
  exact ⟨v, rest, rfl, rfl⟩

/-- The units that are left out are zeros. -/
theorem DurationFields.padded (hfields : DurationFields fields n) : ∃ d h m s,
    h < 24 ∧ m < 60 ∧ s < 60 ∧
      fields = [(d, TimeUnit.days), (h, .hours), (m, .minutes)].dropWhile (fun f => f.1 = 0) ++
        [(s, .seconds)] := by
  obtain ⟨hne, hunits, hhours, hminutes, hseconds, hleading, -⟩ := hfields
  simp only [List.suffix_cons_iff, List.suffix_nil, List.map_eq_nil_iff, hne, or_false] at hunits
  rcases hunits with hunits | hunits | hunits | hunits
  · obtain ⟨d, lower, rfl, hlower⟩ := fields_cons hunits
    obtain ⟨h, lower, rfl, hrest⟩ := fields_cons hlower
    obtain ⟨m, lower, rfl, hlast⟩ := fields_cons hrest
    obtain ⟨s, lower, rfl, hnil⟩ := fields_cons hlast
    obtain rfl := List.map_eq_nil_iff.mp hnil
    have hd : d ≠ 0 := by simpa using hleading
    exact ⟨d, h, m, s, hhours h (by simp), hminutes m (by simp), hseconds s (by simp),
      by simp [hd]⟩
  · obtain ⟨h, lower, rfl, hrest⟩ := fields_cons hunits
    obtain ⟨m, lower, rfl, hlast⟩ := fields_cons hrest
    obtain ⟨s, lower, rfl, hnil⟩ := fields_cons hlast
    obtain rfl := List.map_eq_nil_iff.mp hnil
    have hh : h ≠ 0 := by simpa using hleading
    exact ⟨0, h, m, s, hhours h (by simp), hminutes m (by simp), hseconds s (by simp),
      by simp [hh]⟩
  · obtain ⟨m, lower, rfl, hlast⟩ := fields_cons hunits
    obtain ⟨s, lower, rfl, hnil⟩ := fields_cons hlast
    obtain rfl := List.map_eq_nil_iff.mp hnil
    have hm : m ≠ 0 := by simpa using hleading
    exact ⟨0, 0, m, s, by omega, hminutes m (by simp), hseconds s (by simp), by simp [hm]⟩
  · obtain ⟨s, lower, rfl, hnil⟩ := fields_cons hunits
    obtain rfl := List.map_eq_nil_iff.mp hnil
    exact ⟨0, 0, 0, s, by omega, by omega, hseconds s (by simp), by simp⟩

theorem DurationFields.eq_durationFields (hfields : DurationFields fields n) :
    fields = durationFields n := by
  obtain ⟨d, h, m, s, hh, hm, hs, heq⟩ := hfields.padded
  have htotal := hfields.total
  rw [heq, Units.total_append, Units.total_dropWhile_zero] at htotal
  simp only [Units.total, timeUnits, List.map_cons, List.map_nil, List.sum_cons,
    List.sum_nil] at htotal
  have hdays : n / 86400 = d := by omega
  have hhours : n % 86400 / 3600 = h := by omega
  have hminutes : n % 3600 / 60 = m := by omega
  have hseconds : n % 60 = s := by omega
  rw [heq, durationFields, upperFields, hdays, hhours, hminutes, hseconds]

end Figures

/-! ## The text -/

/-- `out` after the code has come by a unit. -/
def pushUnit (out : String) (v : UInt64) (u : TimeUnit) : String :=
  if 0 < v ∨ out ≠ "" then out ++ (toString v.toNat ++ toString (timeUnits.letter u)) else out

theorem formatDurationSecs_eq (secs : UInt64) : formatDurationSecs secs =
    pushUnit (pushUnit (pushUnit "" (secs / 86400) .days) (secs % 86400 / 3600) .hours)
      (secs % 3600 / 60) .minutes ++ (toString (secs % 60).toNat ++ "s") := by
  have hfirst : pushUnit "" (secs / 86400) .days =
      if 0 < secs / 86400 then toString (secs / 86400).toNat ++ "d" else "" := by
    simp only [pushUnit, ne_eq, not_true_eq_false, or_false, String.empty_append]
    rfl
  rw [hfirst]
  rfl

theorem pushUnit_toList {out : String} {shown : List (Nat × TimeUnit)}
    (hout : out.toList = timeUnits.render shown) (v : UInt64) (u : TimeUnit) :
    (pushUnit out v u).toList = timeUnits.render (pushField shown (v.toNat, u)) := by
  have hempty : out ≠ "" ↔ shown ≠ [] := by
    apply not_congr
    rw [← Units.render_eq_nil timeUnits, ← hout, String.toList_eq_nil_iff]
  have hpos : 0 < v ↔ 0 < v.toNat := UInt64.lt_iff_toNat_lt
  simp only [pushUnit, pushField, hpos, hempty]
  by_cases hshow : 0 < v.toNat ∨ shown ≠ []
  · have hletter : (toString (timeUnits.letter u)).toList = [timeUnits.letter u] :=
      String.toList_singleton _
    rw [if_pos hshow, if_pos hshow, Units.render_append, Units.render_cons, String.toList_append,
      String.toList_append, toList_toString, hout, hletter]
    rfl
  · rw [if_neg hshow, if_neg hshow, hout]

/-- **The text of a duration** is its figures. -/
theorem formatDurationSecs_toList (secs : UInt64) :
    (formatDurationSecs secs).toList = timeUnits.render (durationFields secs.toNat) := by
  have hempty : "".toList = timeUnits.render [] := rfl
  have hdays := pushUnit_toList hempty (secs / 86400) .days
  have hhours := pushUnit_toList hdays (secs % 86400 / 3600) .hours
  have hminutes := pushUnit_toList hhours (secs % 3600 / 60) .minutes
  rw [formatDurationSecs_eq, durationFields, Units.render_append, Units.render_cons,
    ← foldl_pushField, String.toList_append, hminutes, String.toList_append, toList_toString]
  rfl

example : formatDurationSecs 3661 = "1h1m1s" := by decide

/-! ## Reading back -/

theorem read_formatDurationSecs (secs : UInt64) :
    timeUnits.read (formatDurationSecs secs).toList = some (durationFields secs.toNat) := by
  apply timeUnits.read_eq_some.mpr
  exact formatDurationSecs_toList secs

/-- No other text reads as figures for `secs`. -/
theorem formatDurationSecs_eq_iff {text : String} {secs : UInt64} :
    text = formatDurationSecs secs ↔
      ∃ fields, timeUnits.read text.toList = some fields ∧
        DurationFields fields secs.toNat := by
  constructor
  · intro h
    subst h
    exact ⟨_, read_formatDurationSecs secs, durationFields_spec _⟩
  · intro h
    obtain ⟨fields, hread, hfields⟩ := h
    apply String.toList_inj.mp
    rw [timeUnits.read_eq_some.mp hread, hfields.eq_durationFields, formatDurationSecs_toList]

/-- The number of seconds that a text shows. -/
def readDuration (text : List Char) : Option Nat := (timeUnits.read text).map timeUnits.total

theorem readDuration_formatDurationSecs (secs : UInt64) :
    readDuration (formatDurationSecs secs).toList = some secs.toNat := by
  rw [readDuration, read_formatDurationSecs, Option.map_some, durationFields_total]

theorem formatDurationSecs_injective : Function.Injective formatDurationSecs := by
  intro secs secs' h
  have hread := readDuration_formatDurationSecs secs
  rw [h, readDuration_formatDurationSecs] at hread
  exact (UInt64.toNat_inj.mp (Option.some.inj hread)).symm

/-- The seconds to the expiry that a text shows, negative after the expiry. -/
def readRemaining (text : List Char) : Option Int :=
  match text.dropPrefix? "expires in ".toList with
  | some duration => (readDuration duration).map fun n : Nat => (n : Int)
  | none =>
      match text.dropPrefix? "expired ".toList with
      | some rest =>
          (rest.dropSuffix? " ago".toList).bind fun duration =>
            (readDuration duration).map fun n : Nat => -(n : Int)
      | none => if text = "expires now".toList then some 0 else none

/-- A difference that is not negative. -/
private theorem toNat_sub_cast {a b : UInt64} (h : b ≤ a) :
    ((a - b).toNat : Int) = a.toNat - b.toNat := by
  rw [UInt64.toNat_sub_of_le _ _ h, Int.ofNat_sub (UInt64.le_iff_toNat_le.mp h)]

/-- **The text tells the time to the expiry**, or since. -/
theorem readRemaining_formatRemaining (now : UInt64) (expiry : UInt32) :
    readRemaining (formatRemaining now expiry).toList =
      some ((expiry.toNat : Int) - now.toNat) := by
  rw [formatRemaining, ← UInt32.toNat_toUInt64]
  generalize expiry.toUInt64 = due
  split
  · rename_i hlt
    change readRemaining ("expires in " ++ formatDurationSecs (due - now)).toList = _
    rw [String.toList_append, readRemaining, List.dropPrefix?_append_of_beq _ (by simp)]
    simp only [readDuration_formatDurationSecs, Option.map_some]
    rw [toNat_sub_cast (UInt64.le_of_lt hlt)]
  · split
    · rename_i hlt
      let duration := (formatDurationSecs (now - due)).toList
      have hin : ("expired ".toList ++ (duration ++ " ago".toList)).dropPrefix?
          "expires in ".toList = none := rfl
      have hago : (duration ++ " ago".toList).dropSuffix? " ago".toList = some duration :=
        List.dropSuffix?_eq_some_iff.mpr ⟨_, rfl, by simp⟩
      change readRemaining ("expired " ++ formatDurationSecs (now - due) ++ " ago").toList = _
      rw [String.toList_append, String.toList_append, List.append_assoc, readRemaining, hin,
        List.dropPrefix?_append_of_beq _ (by simp)]
      simp only [hago, Option.bind_some, readDuration_formatDurationSecs, Option.map_some, duration]
      rw [toNat_sub_cast (UInt64.le_of_lt hlt), Int.neg_sub]
    · rename_i hnot hnot'
      have hnow : readRemaining "expires now".toList = some 0 := rfl
      obtain rfl := UInt64.le_antisymm (UInt64.not_lt.mp hnot) (UInt64.not_lt.mp hnot')
      rw [hnow, Int.sub_self]

theorem formatRemaining_determines {now now' : UInt64} {expiry expiry' : UInt32}
    (h : formatRemaining now expiry = formatRemaining now' expiry') :
    (expiry.toNat : Int) - now.toNat = expiry'.toNat - now'.toNat := by
  have hread := readRemaining_formatRemaining now expiry
  rw [h, readRemaining_formatRemaining] at hread
  exact (Option.some.inj hread).symm

/-- **The times of the report can be read back.**  A duration is shown by
figures in days, hours, minutes and seconds that add up to it, and no other
duration is shown alike; the time to an expiry is determined by its text. -/
theorem durations_read_back :
    (∀ secs : UInt64, ∃ fields,
      timeUnits.read (formatDurationSecs secs).toList = some fields ∧
        (formatDurationSecs secs).toList = timeUnits.render fields ∧
          DurationFields fields secs.toNat) ∧
    Function.Injective formatDurationSecs ∧
    (∀ (now : UInt64) (expiry : UInt32),
      readRemaining (formatRemaining now expiry).toList =
        some ((expiry.toNat : Int) - now.toNat)) ∧
    ∀ (now now' : UInt64) (expiry expiry' : UInt32),
      formatRemaining now expiry = formatRemaining now' expiry' →
        (expiry.toNat : Int) - now.toNat = expiry'.toNat - now'.toNat := by
  refine ⟨?_, formatDurationSecs_injective, readRemaining_formatRemaining, ?_⟩
  · intro secs
    exact ⟨durationFields secs.toNat, read_formatDurationSecs secs,
      formatDurationSecs_toList secs, durationFields_spec secs.toNat⟩
  · intro now now' expiry expiry' h
    exact formatRemaining_determines h

end StatementStore
