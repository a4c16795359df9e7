import Mathlib.Tactic.IntervalCases
import NodeAgent.Proofs.Text.Split
import NodeAgent.Url.Parser

/-!
# Paths of web addresses

The path of a web address is encoded and free of dot segments once it was read.  To read such a path
again does not change it, and a slash behind it just adds an empty segment.

## Main definitions

* `Url.IsPathChar`: a character that stands for itself in a segment.
* `Url.IsSettled`: a segment that reading leaves as it is.
* `Url.IsSettledPath`: a path made of such segments.

## Main results

* `Url.isSettledPath_readPathStart`: a path is settled once it was read.
* `Url.readPathStart_of_settled`: a settled path is read as it is.
* `Url.isSettledPath_of_parse`: the path of a web address is settled.
* `Url.withTrailingSlash_of_settled`: the slash at the end of a settled path.
* `Url.directory_of_settled`: the directory of a settled path with a slash at its end.
-/

namespace NodeAgent.Url

open Text

/-! ## Characters of a path -/

/-- **A character that stands for itself** in a segment of the path of a web address. -/
def IsPathChar (c : Char) : Prop :=
  c.toNat < 0x80 ∧ inPath c = false ∧ isSlash true c = false

instance (c : Char) : Decidable (IsPathChar c) :=
  inferInstanceAs (Decidable (_ ∧ _))

theorem isPathChar_upperHexDigit {n : Nat} (h : n < 16) : IsPathChar (upperHexDigit n) := by
  interval_cases n <;> decide

theorem isPathChar_of_mem_percentByte {b : UInt8} {c : Char} (h : c ∈ percentByte b) :
    IsPathChar c := by
  have hb : b.toNat < 256 := UInt8.toNat_lt_size b
  simp only [percentByte, List.mem_cons, List.not_mem_nil, or_false] at h
  rcases h with rfl | rfl | rfl
  · decide
  · exact isPathChar_upperHexDigit (by omega)
  · exact isPathChar_upperHexDigit (by omega)

/-- What is left of a segment when it is encoded stands for itself. -/
theorem isPathChar_of_mem_percentEncode {cs : List Char} (h : ∀ c ∈ cs, isSlash true c = false) :
    ∀ c ∈ percentEncode inPath cs, IsPathChar c := by
  intro c hc
  obtain ⟨d, hd, hc⟩ := List.mem_flatMap.mp hc
  -- It belongs to an escape, which is made of digits, or it was kept.
  split at hc
  · obtain ⟨b, -, hb⟩ := List.mem_flatMap.mp hc
    exact isPathChar_of_mem_percentByte hb
  · next hkept =>
    obtain rfl := List.mem_singleton.mp hc
    simp only [Bool.or_eq_true, decide_eq_true_eq, not_or, not_le, Bool.not_eq_true] at hkept
    exact ⟨hkept.1, hkept.2, h c hd⟩

theorem percentEncode_of_isPathChar {cs : List Char} (h : ∀ c ∈ cs, IsPathChar c) :
    percentEncode inPath cs = cs := by
  induction cs with
  | nil => rfl
  | cons c cs ih =>
    obtain ⟨hlow, hin, -⟩ := h c List.mem_cons_self
    have hrest := ih fun d hd => h d (List.mem_cons_of_mem _ hd)
    rw [percentEncode] at hrest ⊢
    rw [List.flatMap_cons, if_neg (by simp [hin, hlow]), hrest]
    rfl

theorem IsPathChar.ne_slash {c : Char} (h : IsPathChar c) : c ≠ '/' := by
  rintro rfl
  exact absurd h (by decide)

theorem IsPathChar.isSlash_eq {c : Char} (h : IsPathChar c) (special : Bool) :
    isSlash special c = false := by
  obtain ⟨-, -, hslash⟩ := h
  cases special <;> simp_all [isSlash]

/-! ## Segments -/

theorem segments_ne_nil (special : Bool) (cs : List Char) : segments special cs ≠ [] := by
  cases cs with
  | nil => exact List.cons_ne_nil _ _
  | cons c rest =>
    rw [segments]
    split
    · exact List.cons_ne_nil _ _
    · split <;> exact List.cons_ne_nil _ _

theorem isSlash_of_mem_segments {special : Bool} {cs segment : List Char}
    (h : segment ∈ segments special cs) : ∀ c ∈ segment, isSlash special c = false := by
  induction cs generalizing segment with
  | nil =>
    rw [segments, List.mem_singleton] at h
    simp [h]
  | cons d rest ih =>
    rw [segments] at h
    split at h
    · next hnone => exact absurd hnone (segments_ne_nil _ _)
    next first more hrest =>
    rw [hrest] at ih
    -- A slash begins a segment of its own; any other character goes in front of the first one.
    split at h
    · rcases List.mem_cons.mp h with rfl | h
      · simp
      · exact ih h
    · next hd =>
      rcases List.mem_cons.mp h with rfl | h
      · intro c hc
        rcases List.mem_cons.mp hc with rfl | hc
        · simpa using hd
        · exact ih List.mem_cons_self c hc
      · exact ih (List.mem_cons_of_mem _ h)

/-- Where slashes are the only separators, segments are what stands between them. -/
theorem segments_eq_splitOnChar {special : Bool} {cs : List Char}
    (h : ∀ c ∈ cs, isSlash special c = (c == '/')) : segments special cs = splitOnChar '/' cs := by
  induction cs with
  | nil => rfl
  | cons c rest ih =>
    have hc := h c List.mem_cons_self
    rw [segments, splitOnChar, ih fun d hd => h d (List.mem_cons_of_mem _ hd)]
    cases splitOnChar '/' rest with
    | nil => rfl
    | cons piece more => simp only [hc]

/-- **A segment that reading leaves as it is.** -/
structure IsSettled (segment : List Char) : Prop where
  isPathChar : ∀ c ∈ segment, IsPathChar c
  isDoubleDot_eq : isDoubleDot segment = false
  isSingleDot_eq : isSingleDot segment = false

theorem isSettled_nil : IsSettled [] :=
  ⟨by simp, rfl, rfl⟩

theorem mem_of_mem_goUp {file : Bool} {done : List (List Char)} {segment : List Char}
    (h : segment ∈ goUp file done) : segment ∈ done := by
  unfold goUp at h
  split at h
  · split at h
    · exact h
    · cases h
  · exact List.mem_cons_of_mem _ h
  · exact h

/-- **Dot segments are gone** when segments are resolved. -/
theorem isSettled_of_mem_resolve {done parts : List (List Char)} (hd : ∀ p ∈ done, IsSettled p)
    (hp : ∀ p ∈ parts, ∀ c ∈ p, IsPathChar c) : ∀ p ∈ resolve false done parts, IsSettled p := by
  induction parts generalizing done with
  | nil =>
    rw [resolve]
    exact fun p h => hd p (List.mem_reverse.mp h)
  | cons part rest ih =>
    have hrest : ∀ {done : List (List Char)}, (∀ p ∈ done, IsSettled p) →
        ∀ p ∈ resolve false done rest, IsSettled p :=
      fun hd => ih hd fun p h => hp p (List.mem_cons_of_mem _ h)
    -- A dot segment at the end leaves an empty one behind what is kept.
    have hlast : ∀ {done : List (List Char)}, (∀ p ∈ done, IsSettled p) →
        ∀ p ∈ ([] :: done).reverse, IsSettled p := by
      intro done hd p h
      rcases List.mem_cons.mp (List.mem_reverse.mp h) with rfl | h
      · exact isSettled_nil
      · exact hd p h
    have hup : ∀ p ∈ goUp false done, IsSettled p := fun p h => hd p (mem_of_mem_goUp h)
    rw [resolve]
    simp only [Bool.false_and, Bool.false_eq_true, if_false]
    split
    · split
      · exact hlast hup
      · exact hrest hup
    · next hdouble =>
      split
      · split
        · exact hlast hd
        · exact hrest hd
      · next hsingle =>
        refine hrest fun p h => ?_
        rcases List.mem_cons.mp h with rfl | h
        · exact ⟨hp p List.mem_cons_self, by simpa using hdouble, by simpa using hsingle⟩
        · exact hd p h

theorem resolve_ne_nil {file : Bool} {done parts : List (List Char)} (h : done ≠ [] ∨ parts ≠ []) :
    resolve file done parts ≠ [] := by
  fun_induction resolve file done parts with
  | case1 done => simpa using h
  | case2 => simp
  | case3 done part rest last _ up hlast ih => exact ih (.inr (by simpa [last] using hlast))
  | case4 => simp
  | case5 done part rest last _ _ hlast ih => exact ih (.inr (by simpa [last] using hlast))
  | case6 done part rest _ _ _ ih => exact ih (.inl (List.cons_ne_nil _ _))
  | case7 done part rest _ _ _ ih => exact ih (.inl (List.cons_ne_nil _ _))

/-- **Segments without a meaning of their own** go behind the others. -/
theorem resolve_of_forall {file : Bool} {parts : List (List Char)}
    (h : ∀ p ∈ parts, isDoubleDot p = false ∧ isSingleDot p = false ∧ (file && isDrive p) = false)
    (done : List (List Char)) : resolve file done parts = done.reverse ++ parts := by
  induction parts generalizing done with
  | nil => simp [resolve]
  | cons p rest ih =>
    obtain ⟨hdouble, hsingle, hdrive⟩ := h p List.mem_cons_self
    have hkept : (file && done.isEmpty && isDrive p) = false := by
      rw [Bool.and_right_comm, hdrive, Bool.false_and]
    rw [resolve, if_neg (by simp [hdouble]), if_neg (by simp [hsingle]), if_neg (by simp [hkept]),
      ih fun q hq => h q (List.mem_cons_of_mem _ hq)]
    simp

theorem resolve_of_settled {parts : List (List Char)} (h : ∀ p ∈ parts, IsSettled p)
    (done : List (List Char)) : resolve false done parts = done.reverse ++ parts :=
  resolve_of_forall (fun p hp => ⟨(h p hp).isDoubleDot_eq, (h p hp).isSingleDot_eq, rfl⟩) done

/-! ## Paths -/

/-- **A path made of settled segments.** -/
def IsSettledPath (path : String) : Prop :=
  ∃ parts, parts ≠ [] ∧ (∀ p ∈ parts, IsSettled p) ∧ path.toList = parts.flatMap ('/' :: ·)

/-- A path holds slashes and what stands in its segments. -/
theorem mem_slash_or_part {parts : List (List Char)} (hne : parts ≠ []) {c : Char}
    (h : c ∈ '/' :: ['/'].intercalate parts) : c = '/' ∨ ∃ p ∈ parts, c ∈ p := by
  rw [← flatMap_cons_eq_intercalate '/' hne] at h
  obtain ⟨p, hp, hc⟩ := List.mem_flatMap.mp h
  rcases List.mem_cons.mp hc with rfl | hc
  · exact .inl rfl
  · exact .inr ⟨p, hp, hc⟩

theorem endsWith_slash_iff {path : String} :
    path.endsWith "/" = true ↔ ['/'] <:+ path.toList := by
  rw [← String.endsWith_toSlice, String.Slice.endsWith_string_iff, String.copy_toSlice]
  rfl

/-- A slash at the end leaves an empty segment behind it. -/
theorem exists_front_of_endsWith_slash {path : String} (h : IsSettledPath path)
    (hends : path.endsWith "/" = true) :
    ∃ front, (∀ p ∈ front, IsSettled p) ∧ path.toList = (front ++ [[]]).flatMap ('/' :: ·) := by
  obtain ⟨parts, hne, hparts, hpath⟩ := h
  obtain ⟨front, last, rfl⟩ := (List.eq_nil_or_concat parts).resolve_left hne
  rw [List.concat_eq_append] at hparts hpath
  have hlast : last = [] := by
    -- Otherwise the path ends with a character of its last segment.
    rcases List.eq_nil_or_concat last with hnil | ⟨before, c, rfl⟩
    · exact hnil
    rw [List.concat_eq_append] at hparts hpath
    have hc := (hparts _ (List.mem_append_right _ List.mem_cons_self)).isPathChar c (by simp)
    obtain ⟨rest, hrest⟩ := endsWith_slash_iff.mp hends
    have hends := congrArg List.getLast? (hrest.trans hpath)
    rw [List.flatMap_append, List.flatMap_singleton, ← List.cons_append, ← List.append_assoc,
      List.getLast?_concat, List.getLast?_concat] at hends
    exact absurd (Option.some.inj hends).symm hc.ne_slash
  subst hlast
  exact ⟨front, fun p hp => hparts p (List.mem_append_left _ hp), hpath⟩

/-- The directory of a settled path with a slash at its end is all of it. -/
theorem directory_of_settled {path : String} {front : List (List Char)}
    (hfront : ∀ p ∈ front, IsSettled p) (hpath : path.toList = (front ++ [[]]).flatMap ('/' :: ·)) :
    directory path = front.reverse := by
  have hne : front ++ [[]] ≠ [] := by simp
  have hsplit : splitOnChar '/' (['/'].intercalate (front ++ [[]])) = front ++ [[]] := by
    refine splitOnChar_intercalate (fun p hp hc => ?_) hne
    rcases List.mem_append.mp hp with hp | hp
    · exact ((hfront p hp).isPathChar _ hc).ne_slash rfl
    · rw [List.mem_singleton.mp hp] at hc
      cases hc
  rw [directory, hpath, flatMap_cons_eq_intercalate '/' hne, List.drop_succ_cons, List.drop_zero, hsplit]
  simp

section Web

variable {scheme path : String} (hs : isSpecialScheme scheme = true) (hf : isFileScheme scheme = false)

include hs hf

theorem isSettledPath_readPath (cs : List Char) : IsSettledPath (readPath scheme [] cs) := by
  have hparts : ∀ p ∈ (segments true cs).map (percentEncode inPath), ∀ c ∈ p, IsPathChar c := by
    intro p hp
    obtain ⟨segment, hsegment, rfl⟩ := List.mem_map.mp hp
    exact isPathChar_of_mem_percentEncode (isSlash_of_mem_segments hsegment)
  refine ⟨resolve false [] ((segments true cs).map (percentEncode inPath)), ?_, ?_, ?_⟩
  · exact resolve_ne_nil (.inr (by simpa using segments_ne_nil true cs))
  · exact isSettled_of_mem_resolve (by simp) hparts
  · simp [readPath, hs, hf, writePath]

/-- **A path is settled once it was read.** -/
theorem isSettledPath_readPathStart (cs : List Char) : IsSettledPath (readPathStart scheme cs) := by
  unfold readPathStart
  split
  · rw [if_pos hs]
    exact ⟨[[]], List.cons_ne_nil _ _, by simpa using isSettled_nil, rfl⟩
  · split
    · exact isSettledPath_readPath hs hf _
    · exact isSettledPath_readPath hs hf _

/-- Settled segments are read behind others as they are. -/
theorem readPath_of_settled {parts : List (List Char)} (h : ∀ p ∈ parts, IsSettled p)
    (hne : parts ≠ []) (done : List (List Char)) :
    readPath scheme done (['/'].intercalate parts) =
      String.ofList ((done.reverse ++ parts).flatMap ('/' :: ·)) := by
  have hchars : ∀ c ∈ ['/'].intercalate parts, isSlash true c = (c == '/') := by
    intro c hc
    rcases mem_slash_or_part hne (List.mem_cons_of_mem _ hc) with rfl | ⟨p, hp, hc⟩
    · rfl
    · have hpath := (h p hp).isPathChar c hc
      rw [hpath.isSlash_eq, beq_false_of_ne hpath.ne_slash]
  have hparts : splitOnChar '/' (['/'].intercalate parts) = parts :=
    splitOnChar_intercalate (fun p hp hc => ((h p hp).isPathChar _ hc).ne_slash rfl) hne
  have hencoded : parts.map (percentEncode inPath) = parts := by
    rw [List.map_congr_left fun p hp => percentEncode_of_isPathChar (h p hp).isPathChar, List.map_id']
  simp only [readPath, hs, hf]
  rw [segments_eq_splitOnChar hchars, hparts, hencoded, resolve_of_settled h]
  rfl

/-- **A settled path is read as it is.** -/
theorem readPathStart_of_settled (h : IsSettledPath path) : readPathStart scheme path.toList = path := by
  obtain ⟨parts, hne, hparts, hpath⟩ := h
  have hslash : isSlash (isSpecialScheme scheme) '/' = true := rfl
  rw [hpath, flatMap_cons_eq_intercalate '/' hne, readPathStart, if_pos hslash,
    readPath_of_settled hs hf hparts hne, List.reverse_nil, List.nil_append, ← hpath,
    String.ofList_toList]

end Web

/-! ## Web addresses -/

section Address

variable {u : Url}

theorem isSpecialScheme_of_isWeb (h : u.isWeb = true) : isSpecialScheme u.scheme = true := by
  rw [isWeb, Bool.or_eq_true, beq_iff_eq, beq_iff_eq] at h
  rcases h with h | h <;> rw [h] <;> rfl

theorem isFileScheme_of_isWeb (h : u.isWeb = true) : isFileScheme u.scheme = false := by
  rw [isWeb, Bool.or_eq_true, beq_iff_eq, beq_iff_eq] at h
  rcases h with h | h <;> rw [h] <;> rfl

/-- What stands in front of the query goes into a URL as it was read. -/
theorem readFront_of_readAbsolute {scheme : String} {cs : List Char}
    (h : readAbsolute scheme cs = .ok u) :
    u.scheme = scheme ∧ ∃ followed rest, readFront scheme followed rest = .ok ⟨u.authority, u.path⟩ := by
  unfold readAbsolute at h
  dsimp only [bind, Except.bind] at h
  split at h
  · cases h
  · next front hfront =>
    cases h
    exact ⟨rfl, _, _, hfront⟩

/-- The path of a special scheme stands behind an authority. -/
theorem readFront_eq_ok {scheme : String} (hs : isSpecialScheme scheme = true)
    (hf : isFileScheme scheme = false) {followed : Bool} {cs : List Char} {front : Front}
    (h : readFront scheme followed cs = .ok front) :
    ∃ authority rest, front = ⟨some authority, readPathStart scheme rest⟩ := by
  unfold readFront at h
  rw [if_neg (by simp [hf]), if_pos hs] at h
  dsimp only [bind, Except.bind] at h
  split at h
  · cases h
  · next found hfound =>
    cases h
    exact ⟨_, _, rfl⟩

/-- **The path of a web address is settled**, and stands behind an authority. -/
theorem isSettledPath_of_parse {raw : String} (h : Url.parse raw = .ok u) (hw : u.isWeb = true) :
    IsSettledPath u.path ∧ u.authority.isSome = true := by
  have hs := isSpecialScheme_of_isWeb hw
  have hf := isFileScheme_of_isWeb hw
  unfold Url.parse at h
  split at h
  · obtain ⟨rfl, followed, rest, hfront⟩ := readFront_of_readAbsolute h
    obtain ⟨authority, behind, hfront⟩ := readFront_eq_ok hs hf hfront
    obtain ⟨hauthority, hpath⟩ := Front.mk.inj hfront
    rw [hpath, hauthority]
    exact ⟨isSettledPath_readPathStart hs hf behind, rfl⟩
  · cases h

theorem dropBreaks_of_settled {path : String} (h : IsSettledPath path) :
    dropBreaks path.toList = path.toList := by
  obtain ⟨parts, hne, hparts, hpath⟩ := h
  refine List.filter_eq_self.mpr fun c hc => ?_
  rw [hpath, flatMap_cons_eq_intercalate '/' hne] at hc
  rcases mem_slash_or_part hne hc with rfl | ⟨p, hp, hc⟩
  · rfl
  -- A break is a control character, which would have been encoded.
  · have hpath := (hparts p hp).isPathChar c hc
    have hne : ∀ d, ¬ IsPathChar d → (c != d) = true := by
      rintro d hd
      refine bne_iff_ne.mpr ?_
      rintro rfl
      exact hd hpath
    simp only [Bool.and_eq_true]
    exact ⟨⟨hne _ (by decide), hne _ (by decide)⟩, hne _ (by decide)⟩

theorem isSettledPath_append_slash {path : String} (h : IsSettledPath path) :
    IsSettledPath (path ++ "/") := by
  obtain ⟨parts, hne, hparts, hpath⟩ := h
  refine ⟨parts ++ [[]], by simp, ?_, ?_⟩
  · intro p hp
    rcases List.mem_append.mp hp with hp | hp
    · exact hparts p hp
    · exact List.mem_singleton.mp hp ▸ isSettled_nil
  · rw [String.toList_append, hpath, List.flatMap_append]
    rfl

theorem isOpaque_of_authority (h : u.authority.isSome = true) : u.isOpaque = false := by
  rw [isOpaque, Option.isNone_eq_false_iff.mpr h, Bool.false_and]

/-- **A web address takes a settled path as it is.** -/
theorem setPath_of_settled (hw : u.isWeb = true) (ha : u.authority.isSome = true) {path : String}
    (h : IsSettledPath path) : u.setPath path = { u with path } := by
  rw [setPath, isOpaque_of_authority ha, dropBreaks_of_settled h]
  simp only [Bool.false_eq_true, if_false]
  rw [readPathStart_of_settled (isSpecialScheme_of_isWeb hw) (isFileScheme_of_isWeb hw) h]

/-- **The slash at the end of a settled path** is there or is put there, and nothing else changes. -/
theorem withTrailingSlash_of_settled (hw : u.isWeb = true) (ha : u.authority.isSome = true)
    (h : IsSettledPath u.path) :
    u.withTrailingSlash = if u.path.endsWith "/" then u else { u with path := u.path ++ "/" } := by
  rw [withTrailingSlash, setPath_of_settled hw ha (isSettledPath_append_slash h)]

end Address

end NodeAgent.Url
