import EvGrpc.Util.Timestamp

/-!
# Which timestamps are accepted

`ParseTimestamp` documents the forms PostgreSQL prints.  It edits the text before it looks at
it, and leaves the fields to `std::get_time`, which knows neither how many digits a field was
printed with nor how many days a month has, and stops without a failure where the text ends
after a field.  `ReadAs` is what is accepted, `Documented` what
should be, and `timestamps_exact_iff` says that the difference is `Sloppy`.
-/

namespace EvGrpc

open Lib

/-! ## Fields -/

/-- A field of at most `width` digits, with a value between the bounds. -/
structure ReadsField (width lo hi : ℕ) (ds : List Char) (v : ℕ) : Prop where
  ne_nil : ds ≠ []
  digits : Digits ds
  length_le : ds.length ≤ width
  value : Nat.ofDigitChars 10 ds 0 = v
  low : lo ≤ v
  high : v ≤ hi

section Fields
variable {width lo hi v : ℕ} {cs ds rest : List Char}

/-- A field ends where its width does, or at a character that is not a digit. -/
theorem getNum_of_readsField (h : ReadsField width lo hi ds v)
    (hend : ds.length = width ∨ ∀ c ∈ rest.head?, c.isDigit = false) :
    getNum width lo hi (ds ++ rest) = some (v, rest) := by
  have hread : ((ds ++ rest).take width).takeWhile Char.isDigit = ds := by
    rw [List.take_append, List.take_of_length_le h.length_le,
      List.takeWhile_append_of_pos h.digits]
    have hnone : (rest.take (width - ds.length)).takeWhile Char.isDigit = [] := by
      rcases hend with hend | hend
      · simp [hend]
      · cases rest with
        | nil => simp
        | cons c rest =>
            cases width - ds.length with
            | zero => simp
            | succ k => simp [hend c (by simp)]
    rw [hnone, List.append_nil]
  unfold getNum
  simp only [hread, h.value]
  rw [if_pos ⟨h.ne_nil, h.low, h.high⟩, List.drop_left]

theorem getNum_eq_some (h : getNum width lo hi cs = some (v, rest)) :
    ∃ ds, cs = ds ++ rest ∧ ReadsField width lo hi ds v ∧
      (ds.length = width ∨ ∀ c ∈ rest.head?, c.isDigit = false) := by
  unfold getNum at h
  simp only at h
  split_ifs at h with hin
  cases h
  obtain ⟨ds, hds⟩ : ∃ ds, ds = (cs.take width).takeWhile Char.isDigit := ⟨_, rfl⟩
  rw [← hds] at hin ⊢
  have hle : ds.length ≤ width := by
    rw [hds]
    exact (List.takeWhile_prefix _).length_le.trans (List.length_take_le _ _)
  have hkept : ds <+: cs := by
    rw [hds]
    exact (List.takeWhile_prefix _).trans (List.take_prefix _ _)
  have hsplit : cs = ds ++ cs.drop ds.length := by
    obtain ⟨tail, rfl⟩ := hkept
    rw [List.drop_left]
  refine ⟨ds, hsplit, ⟨hin.1, ?_, hle, rfl, hin.2.1, hin.2.2⟩, ?_⟩
  · intro c hc
    rw [hds] at hc
    exact List.mem_takeWhile_imp hc
  · by_cases hwidth : ds.length = width
    · exact .inl hwidth
    · -- The next character is inside the width, so it is the one that ended the field.
      right
      generalize cs.drop ds.length = tail at hsplit ⊢
      intro c hc
      cases tail with
      | nil => cases hc
      | cons x tail =>
          cases hc
          obtain ⟨k, hk⟩ : ∃ k, width - ds.length = k + 1 := ⟨width - ds.length - 1, by omega⟩
          rw [hsplit, List.take_append, List.take_of_length_le hle, hk, List.take_succ_cons] at hds
          by_contra hdigit
          have hall : ∀ c ∈ ds, c.isDigit = true := by
            intro c hc
            rw [hds] at hc
            exact List.mem_takeWhile_imp hc
          rw [List.takeWhile_append_of_pos hall,
            List.takeWhile_cons_of_pos (by simpa using hdigit)] at hds
          simpa using congrArg List.length hds

end Fields

/-! ## The clock -/

/-- The white space that a conversion passes over: one character before the day, if any. -/
def Field.Skips (f : Field) (gap : List Char) : Prop :=
  gap = [] ∨ f = .day ∧ ∃ c, isSpace c = true ∧ gap = [c]

/-- The text follows the format, in which it may end after any field: `t` holds the fields read
before it, and `t'` those read after it as well. -/
inductive Follows : List Directive → List Char → Tm → Tm → Prop
  | done {t : Tm} : Follows [] [] t t
  | last {fmt : List Directive} {f : Field} {gap ds : List Char} {t : Tm} {v : ℕ}
      (hgap : f.Skips gap) (hfield : ReadsField f.width f.lo f.hi ds v) :
      Follows (.field f :: fmt) (gap ++ ds) t (t.set v f)
  | field {fmt : List Directive} {f : Field} {gap ds rest : List Char} {t t' : Tm} {v : ℕ}
      (hgap : f.Skips gap) (hfield : ReadsField f.width f.lo f.hi ds v) (hrest : rest ≠ [])
      (hend : ds.length = f.width ∨ ∀ c ∈ rest.head?, c.isDigit = false)
      (h : Follows fmt rest (t.set v f) t') : Follows (.field f :: fmt) (gap ++ (ds ++ rest)) t t'
  | lit {fmt : List Directive} {c : Char} {cs : List Char} {t t' : Tm} (h : Follows fmt cs t t') :
      Follows (.lit c :: fmt) (c :: cs) t t'
  | space {fmt : List Directive} {gap rest : List Char} {t t' : Tm}
      (hgap : ∀ c ∈ gap, isSpace c = true) (hrest : ∀ c ∈ rest.head?, isSpace c = false)
      (hne : gap ++ rest ≠ []) (h : Follows fmt rest t t') :
      Follows (.space :: fmt) (gap ++ rest) t t'

/-- What `get_time` reads as a time: white space, and a text that follows the format. -/
inductive ReadsClock : List Char → Tm → Prop
  | mk {space cs : List Char} {t : Tm} (hspace : ∀ c ∈ space, isSpace c = true)
      (h : Follows kFormat cs .zero t) : ReadsClock (space ++ cs) t

/-- A list is split where a property first fails. -/
theorem exists_span {α : Type} (p : α → Bool) (cs : List α) :
    ∃ head, cs = head ++ cs.dropWhile p ∧ (∀ c ∈ head, p c = true) ∧
      ∀ c ∈ (cs.dropWhile p).head?, p c = false := by
  refine ⟨cs.takeWhile p, List.takeWhile_append_dropWhile.symm,
    fun c hc => List.mem_takeWhile_imp hc, ?_⟩
  intro c hc
  have hhead := List.head?_dropWhile_not p cs
  rw [hc] at hhead
  simpa using hhead

theorem dropWhile_append_of_head {α : Type} {p : α → Bool} {head tail : List α}
    (h : ∀ c ∈ head, p c = true) (htail : ∀ c ∈ tail.head?, p c = false) :
    (head ++ tail).dropWhile p = tail := by
  rw [List.dropWhile_append_of_pos h]
  cases tail with
  | nil => rfl
  | cons c tail => exact List.dropWhile_cons_of_neg (by simp [htail c (by simp)])

section Get
variable {fmt : List Directive} {f : Field} {gap ds rest cs : List Char} {t t' : Tm} {v : ℕ}

theorem ReadsField.head_isSpace {width lo hi : ℕ} (h : ReadsField width lo hi ds v) :
    ∀ c ∈ (ds ++ rest).head?, isSpace c = false := by
  intro c hc
  cases ds with
  | nil => exact absurd rfl h.ne_nil
  | cons d ds =>
      cases hc
      exact isSpace_of_isDigit (h.digits _ (by simp))

/-- The white space is passed over, and nothing else is. -/
theorem Field.Skips.skip (h : f.Skips gap) (hrest : ∀ c ∈ rest.head?, isSpace c = false) :
    f.skip (gap ++ rest) = rest := by
  rcases h with rfl | ⟨rfl, c, hc, rfl⟩
  · cases rest with
    | nil => cases f <;> rfl
    | cons c rest => exact Field.skip_cons (hrest c (by simp))
  · simp [Field.skip, hc]

theorem Field.exists_skips (f : Field) (cs : List Char) :
    ∃ gap, f.Skips gap ∧ cs = gap ++ f.skip cs := by
  cases cs with
  | nil => exact ⟨[], .inl rfl, by cases f <;> rfl⟩
  | cons c cs =>
      by_cases h : f = .day ∧ isSpace c = true
      · obtain ⟨rfl, hc⟩ := h
        exact ⟨[c], .inr ⟨rfl, c, hc, rfl⟩, by simp [Field.skip, hc]⟩
      · refine ⟨[], .inl rfl, ?_⟩
        cases f <;> simp_all [Field.skip]

theorem get_of_follows (h : Follows fmt cs t t') : get fmt cs t = some (t', []) := by
  induction h with
  | done => rfl
  | @last fmt f gap ds t v hgap hfield =>
      have hread : getNum f.width f.lo f.hi (ds ++ []) = some (v, []) :=
        getNum_of_readsField hfield (.inr (by simp))
      have hskip : f.skip (gap ++ (ds ++ [])) = ds ++ [] := hgap.skip hfield.head_isSpace
      rw [List.append_nil] at hread hskip
      rw [get_field (by simp [hfield.ne_nil]), hskip, hread]
      rfl
  | field hgap hfield hrest hend h ih =>
      rw [get_field (by simp [hfield.ne_nil]), hgap.skip hfield.head_isSpace,
        getNum_of_readsField hfield hend, Option.bind_some, if_neg hrest, ih]
  | lit h ih => rw [get_lit_cons, ih]
  | space hgap hrest hne h ih =>
      rw [get, if_neg hne]
      simp only [dropWhile_append_of_head hgap hrest, ih]

/-- One field is read as the relation says, whatever comes after it. -/
theorem follows_field (h : get (.field f :: fmt) cs t = some (t', []))
    (ih : ∀ {cs t}, get fmt cs t = some (t', []) → Follows fmt cs t t') :
    Follows (.field f :: fmt) cs t t' := by
  have hne : cs ≠ [] := by
    rintro rfl
    cases h
  rw [get_field hne] at h
  obtain ⟨⟨v, rest⟩, hread, h⟩ := Option.bind_eq_some_iff.mp h
  obtain ⟨ds, hds, hfield, hend⟩ := getNum_eq_some hread
  obtain ⟨gap, hgap, hcs⟩ := f.exists_skips cs
  rw [hcs, hds]
  by_cases hrest : rest = []
  · rw [if_pos hrest] at h
    cases h
    rw [List.append_nil]
    exact .last hgap hfield
  · rw [if_neg hrest] at h
    exact .field hgap hfield hrest hend (ih h)

theorem follows_of_get (h : get fmt cs t = some (t', [])) : Follows fmt cs t t' := by
  induction fmt generalizing cs t with
  | nil =>
      cases h
      exact .done
  | cons d fmt ih =>
      cases d with
      | field f => exact follows_field h ih
      | lit c =>
          cases cs with
          | nil => cases h
          | cons x cs =>
              by_cases hx : x = c
              · subst hx
                rw [get_lit_cons] at h
                exact .lit (ih h)
              · simp [get, hx] at h
      | space =>
          by_cases hne : cs = []
          · simp [get, hne] at h
          · obtain ⟨gap, hcs, hgap, hrest⟩ := exists_span isSpace cs
            rw [get, if_neg hne] at h
            rw [hcs]
            exact .space hgap hrest (hcs ▸ hne) (ih h)

/-- A time starts with the year, and that with a digit. -/
theorem Follows.head_isSpace (h : Follows kFormat cs t t') : ∀ c ∈ cs.head?, isSpace c = false := by
  have hyear : ∀ {gap : List Char}, Field.year.Skips gap → gap = [] := by
    intro gap h
    simpa [Field.Skips] using h
  cases h with
  | @last _ _ _ ds _ _ hgap hfield =>
      rw [hyear hgap, List.nil_append, ← List.append_nil ds]
      exact hfield.head_isSpace
  | field hgap hfield _ _ _ =>
      rw [hyear hgap, List.nil_append]
      exact hfield.head_isSpace

theorem getTime_eq_some_iff : getTime cs = some (t, []) ↔ ReadsClock cs t := by
  constructor
  · intro h
    obtain ⟨space, hcs, hspace, -⟩ := exists_span isSpace cs
    rw [hcs]
    exact .mk hspace (follows_of_get h)
  · rintro ⟨hspace, h⟩
    rw [getTime, dropWhile_append_of_head hspace h.head_isSpace, get_of_follows h]

end Get

/-- Every field that is read is in its range, and so were those of an empty `std::tm`. -/
theorem Follows.fits {fmt : List Directive} {cs : List Char} {t t' : Tm} (h : Follows fmt cs t t')
    (ht : t.Fits) : t'.Fits := by
  induction h with
  | done => exact ht
  | last _ hfield => exact ht.set hfield.low hfield.high
  | field _ hfield _ _ _ ih => exact ih (ht.set hfield.low hfield.high)
  | lit _ ih => exact ih ht
  | space _ _ _ _ ih => exact ih ht

/-- A day of zero is left by a text without a day, and is not what such a text prints. -/
theorem ReadsClock.inRange {t : Tm} (h : ReadsClock t.text t) (hsec : t.sec ≠ 60) : t.InRange := by
  have hread := getTime_eq_some_iff.mpr h
  have hfits : t.Fits := by
    generalize t.text = clock at h
    obtain ⟨-, h⟩ := h
    exact h.fits (by constructor <;> decide)
  have hday : 1 ≤ t.day := by
    by_contra hday
    rw [Tm.getTime_text hfits, if_neg hday] at hread
    cases hread
  have := hfits.sec
  exact ⟨hfits.year, hfits.month, ⟨hday, hfits.day⟩, hfits.hour, hfits.min, by omega⟩

/-! ## The fraction -/

theorem exists_cut (cs : List Char) : ∃ body, Cut cs body := by
  obtain ⟨head, hcs, hhead, hrest⟩ := exists_span (fun c => decide (c ≠ '.')) cs
  have hdot : '.' ∉ head := by
    intro hmem
    simpa using hhead _ hmem
  generalize cs.dropWhile (fun c => decide (c ≠ '.')) = rest at hcs hrest
  subst hcs
  cases rest with
  | nil => exact ⟨_, .whole (by simpa using hdot)⟩
  | cons c rest =>
      obtain ⟨junk, hrest', hjunk, htail⟩ := exists_span (fun c => decide (¬ startsOffset c)) rest
      generalize rest.dropWhile (fun c => decide (¬ startsOffset c)) = tail at hrest' htail
      have hc : c = '.' := by simpa using hrest c (by simp)
      subst hc hrest'
      refine ⟨_, .dot hdot ?_ ?_⟩
      · intro c hc
        simpa using hjunk c hc
      · intro c hc
        simpa using htail c hc

theorem cut_dropFraction (cs : List Char) : Cut cs (dropFraction cs) := by
  obtain ⟨body, h⟩ := exists_cut cs
  rw [dropFraction_of_cut h]
  exact h

theorem cut_iff {cs body : List Char} : Cut cs body ↔ dropFraction cs = body :=
  ⟨dropFraction_of_cut, fun h => h ▸ cut_dropFraction cs⟩

/-! ## Whole timestamps -/

/-- The text is read as this clock and this offset.  The offset starts after nineteen
characters. -/
structure ReadAs (s : String) (clock : List Char) (zone : Option Zone) (t : Tm) : Prop where
  cut : Cut s.toList (clock ++ zoneText zone)
  short : clock.length ≤ kDateTimeLen
  full : zone.isSome → clock.length = kDateTimeLen
  reads : ReadsClock clock t

/-- A real date and time of day. -/
structure Tm.IsReal (t : Tm) : Prop extends t.InRange where
  exists_day : t.day ≤ daysInMonth t.year t.month

/-- The documented grammar: `YYYY-MM-DD HH:MM:SS` naming a real date and time of day, a point
and digits or nothing, an offset or nothing. -/
def Documented (s : String) : Prop :=
  ∃ (t : Tm) (fraction : List Char) (zone : Option Zone), t.IsReal ∧ Digits fraction ∧
    s.toList = t.text ++ (if fraction = [] then [] else '.' :: fraction) ++ zoneText zone

/-- The texts that are read although they are not documented. -/
inductive Sloppy (s : String) : Prop
  | noSuchDay {clock zone t} (h : ReadAs s clock zone t)
      (hday : daysInMonth t.year t.month < t.day)
  | leapSecond {clock zone t} (h : ReadAs s clock zone t) (hsec : t.sec = 60)
  -- The text ends after an earlier field than the seconds, a field lacks its leading zeros, or
  -- there is other white space than the one space.
  | form {clock zone t} (h : ReadAs s clock zone t) (hclock : clock ≠ t.text)
  -- What is cut from the point on is not just digits after the seconds.
  | junk {clock zone t} (h : ReadAs s clock zone t) (hdot : '.' ∈ s.toList)
      (hjunk : ∀ ds, Digits ds → ds ≠ [] → s.toList ≠ clock ++ '.' :: ds ++ zoneText zone)

section Whole
variable {s : String} {clock clock' : List Char} {zone zone' : Option Zone} {t t' : Tm}

theorem zoneText_ne_nil {z : Zone} : zoneText (some z) ≠ [] := by
  obtain ⟨c, cs, htext, -⟩ := startsOffset_text z
  simp [zoneText, htext]

theorem ReadAs.isSome (h : ReadAs s clock zone t) : (parseTimestamp s).isSome := by
  have hread := getTime_eq_some_iff.mpr h.reads
  have hne : s ≠ "" := by
    rintro rfl
    have hbody := dropFraction_of_cut h.cut
    rw [(List.append_eq_nil_iff.mp hbody.symm).1] at hread
    cases hread
  rw [parseTimestamp_eq hne, dropFraction_of_cut h.cut]
  cases zone with
  | none =>
      have hshort : ¬ kDateTimeLen < (clock ++ zoneText none).length := by
        simpa [zoneText] using h.short
      have htake : (clock ++ zoneText none).take kDateTimeLen = clock := by
        rw [zoneText, Option.elim_none, List.append_nil, List.take_of_length_le h.short]
      rw [if_neg hshort, htake, hread]
      rfl
  | some z =>
      have hlen := h.full rfl
      have hlong : kDateTimeLen < (clock ++ zoneText (some z)).length := by
        have := List.length_pos_of_ne_nil (zoneText_ne_nil (z := z))
        rw [List.length_append]
        omega
      rw [if_pos hlong, List.drop_left' hlen, List.take_left' hlen, hread, zoneText,
        Option.elim_some, offsetSec_text]
      rfl

/-- What is accepted is read as something. -/
theorem exists_readAs (h : (parseTimestamp s).isSome) : ∃ clock zone t, ReadAs s clock zone t := by
  have hne : s ≠ "" := by
    rintro rfl
    cases h
  have hcut := cut_dropFraction s.toList
  rw [parseTimestamp_eq hne] at h
  generalize dropFraction s.toList = body at h hcut
  obtain ⟨out, h⟩ := Option.isSome_iff_exists.mp h
  obtain ⟨offset, hoffset, h⟩ := Option.bind_eq_some_iff.mp h
  obtain ⟨⟨t, rest⟩, hread, h⟩ := Option.bind_eq_some_iff.mp h
  have hrest : rest = [] := by
    by_contra hrest
    rw [if_pos hrest] at h
    cases h
  subst hrest
  have hclock := getTime_eq_some_iff.mp hread
  by_cases hlong : kDateTimeLen < body.length
  · rw [if_pos hlong] at hoffset
    obtain ⟨z, hz, -⟩ := exists_zone hoffset
    have hfull : (body.take kDateTimeLen).length = kDateTimeLen := by
      rw [List.length_take]
      omega
    refine ⟨_, some z, t, ?_, hfull.le, fun _ => hfull, hclock⟩
    rwa [zoneText, Option.elim_some, ← hz, List.take_append_drop]
  · rw [List.take_of_length_le (by omega)] at hclock
    refine ⟨body, none, t, ?_, by omega, ?_, hclock⟩
    · rwa [zoneText, Option.elim_none, List.append_nil]
    · intro hnone
      cases hnone

theorem ReadAs.unique (h : ReadAs s clock zone t) (h' : ReadAs s clock' zone' t') :
    clock = clock' ∧ zoneText zone = zoneText zone' ∧ t = t' := by
  have hbody : clock ++ zoneText zone = clock' ++ zoneText zone' := by
    rw [← dropFraction_of_cut h.cut, dropFraction_of_cut h'.cut]
  have hlen := congrArg List.length hbody
  rw [List.length_append, List.length_append] at hlen
  have hshort := h.short
  have hshort' := h'.short
  have hsame : clock.length = clock'.length := by
    cases zone with
    | none =>
        cases zone' with
        | none => simpa [zoneText] using hlen
        | some z' =>
            have hfull := h'.full rfl
            have := List.length_pos_of_ne_nil (zoneText_ne_nil (z := z'))
            simp only [zoneText, Option.elim_none, List.length_nil] at hlen
            simp only [zoneText, Option.elim_some] at this hlen
            omega
    | some z =>
        have hfull := h.full rfl
        have := List.length_pos_of_ne_nil (zoneText_ne_nil (z := z))
        cases zone' with
        | none =>
            simp only [zoneText, Option.elim_none, List.length_nil] at hlen
            simp only [zoneText, Option.elim_some] at this hlen
            omega
        | some z' =>
            have hfull' := h'.full rfl
            omega
  obtain ⟨rfl, hzone⟩ := List.append_inj hbody hsame
  have hread := getTime_eq_some_iff.mpr h.reads
  rw [getTime_eq_some_iff.mpr h'.reads] at hread
  cases hread
  exact ⟨rfl, hzone, rfl⟩

/-- A text in the documented form is read as what it says. -/
theorem readAs_text {fraction : List Char} (ht : t.InRange) (hf : Digits fraction)
    (hs : s.toList = t.text ++ (if fraction = [] then [] else '.' :: fraction) ++ zoneText zone) :
    ReadAs s t.text zone t := by
  have hlen := Tm.length_text ht
  have hread : getTime t.text = some (t, []) := by rw [Tm.getTime_text ht.fits, if_pos ht.day.1]
  refine ⟨cut_iff.mpr ?_, hlen.le, fun _ => hlen, getTime_eq_some_iff.mp hread⟩
  rw [hs, dropFraction_text (Tm.dot_notMem_text t) (isFraction_of_digits hf)]

theorem Sloppy.isSome (h : Sloppy s) : (parseTimestamp s).isSome := by
  cases h with
  | noSuchDay h _ => exact h.isSome
  | leapSecond h _ => exact h.isSome
  | form h _ => exact h.isSome
  | junk h _ _ => exact h.isSome

theorem Sloppy.not_documented (h : Sloppy s) : ¬ Documented s := by
  rintro ⟨t', fraction, zone', hreal, hf, hs⟩
  have h' := readAs_text hreal.toInRange hf hs
  cases h with
  | noSuchDay h hday =>
      obtain ⟨-, -, rfl⟩ := h.unique h'
      exact absurd hreal.exists_day (by omega)
  | leapSecond h hsec =>
      obtain ⟨-, -, rfl⟩ := h.unique h'
      have := hreal.sec
      omega
  | form h hclock =>
      obtain ⟨hsame, -, rfl⟩ := h.unique h'
      exact hclock hsame
  | junk h hdot hjunk =>
      obtain ⟨rfl, hzone, rfl⟩ := h.unique h'
      by_cases hnone : fraction = []
      · rw [hs, if_pos hnone, List.append_nil] at hdot
        rcases List.mem_append.mp hdot with hmem | hmem
        · exact Tm.dot_notMem_text _ hmem
        · exact dot_notMem_zoneText _ hmem
      · rw [if_neg hnone, ← hzone] at hs
        exact hjunk fraction hf hnone hs

/-- What is read and not sloppy is documented. -/
theorem ReadAs.documented (h : ReadAs s clock zone t) (hsloppy : ¬ Sloppy s) : Documented s := by
  have hday : t.day ≤ daysInMonth t.year t.month :=
    not_lt.mp fun hlt => hsloppy (.noSuchDay h hlt)
  have hsec : t.sec ≠ 60 := fun hsec => hsloppy (.leapSecond h hsec)
  have hclock : clock = t.text := by
    by_contra hne
    exact hsloppy (.form h hne)
  have hreal : t.IsReal := ⟨(hclock ▸ h.reads).inRange hsec, hday⟩
  by_cases hdot : '.' ∈ s.toList
  · by_contra hnot
    refine hsloppy (.junk h hdot ?_)
    intro ds hds hne hs
    refine hnot ⟨t, ds, zone, hreal, hds, ?_⟩
    rw [hs, hclock, if_neg hne]
  · refine ⟨t, [], zone, hreal, by simp [Digits], ?_⟩
    have hwhole := dropFraction_of_cut (.whole hdot)
    rw [dropFraction_of_cut h.cut] at hwhole
    rw [if_pos rfl, List.append_nil, ← hclock, hwhole]

end Whole

/-- **Timestamps are accepted exactly** when they are documented, unless they are sloppy. -/
theorem timestamps_exact_iff (s : String) :
    ((parseTimestamp s).isSome ↔ Documented s) ↔ ¬ Sloppy s := by
  constructor
  · intro hexact hsloppy
    exact hsloppy.not_documented (hexact.mp hsloppy.isSome)
  · intro hsloppy
    constructor
    · intro hsome
      obtain ⟨clock, zone, t, h⟩ := exists_readAs hsome
      exact h.documented hsloppy
    · rintro ⟨t, fraction, zone, hreal, hf, hs⟩
      exact (readAs_text hreal.toInRange hf hs).isSome

/-- The thirty-first of February is read as the third of March. -/
theorem thirty_first_of_february :
    parseTimestamp "2023-02-31 00:00:00" = parseTimestamp "2023-03-03 00:00:00" ∧
      (parseTimestamp "2023-02-31 00:00:00").isSome ∧ ¬ Documented "2023-02-31 00:00:00" := by
  have hread : ReadAs "2023-02-31 00:00:00" (Tm.text ⟨2023, 2, 31, 0, 0, 0⟩) none
      ⟨2023, 2, 31, 0, 0, 0⟩ :=
    @readAs_text _ none ⟨2023, 2, 31, 0, 0, 0⟩ [] (by constructor <;> decide) (by simp [Digits])
      (by decide)
  refine ⟨by decide +kernel, hread.isSome, ?_⟩
  exact Sloppy.not_documented (.noSuchDay hread (by decide))

end EvGrpc
