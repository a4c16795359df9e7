import NodeAgent.Proofs.Url.Path

/-!
# A slash at the end of a path

Behind a slash stands an empty segment, which no dot segment in front of it takes away.  A path that is
read from a text with a slash at its end therefore has one too, whatever else the text holds.  Only an
opaque path that is empty takes no slash: at the start of such a path a slash is escaped.

## Main definitions

* `Url.TakesSlash`: a URL whose path is not of this kind.

## Main results

* `endsWith_slash_readPathStart`: a slash at the end stays when a path is read.
* `endsWith_slash_withTrailingSlash_iff`: which URLs get a slash at the end of their path.
-/

namespace NodeAgent.Url

open Text

/-- **A URL whose path takes a slash at its end**: it is not opaque, or not empty. -/
def TakesSlash (u : Url) : Prop :=
  u.isOpaque = true → dropBreaks u.path.toList ≠ []

/-! ## The segment behind a slash -/

/-- Behind a slash at the end stands an empty segment, and another one in front of it. -/
theorem exists_segments_slash (special : Bool) (cs : List Char) :
    ∃ front ≠ [], segments special (cs ++ ['/']) = front ++ [[]] := by
  induction cs with
  | nil =>
    cases special with
    | false => exact ⟨[[]], List.cons_ne_nil _ _, rfl⟩
    | true => exact ⟨[[]], List.cons_ne_nil _ _, rfl⟩
  | cons c cs ih =>
    obtain ⟨front, hne, hfront⟩ := ih
    obtain ⟨segment, front, rfl⟩ := List.exists_cons_of_ne_nil hne
    rw [List.cons_append, segments, hfront]
    dsimp only [List.cons_append]
    split
    · exact ⟨[] :: segment :: front, List.cons_ne_nil _ _, rfl⟩
    · exact ⟨(c :: segment) :: front, List.cons_ne_nil _ _, rfl⟩

/-- Resolving leaves an empty segment at the end. -/
theorem exists_resolve_slash (file : Bool) (done parts : List (List Char)) :
    ∃ front, resolve file done (parts ++ [[]]) = front ++ [[]] := by
  induction parts generalizing done with
  | nil =>
    refine ⟨done.reverse, ?_⟩
    rw [List.nil_append, resolve_of_forall]
    rintro p hp
    rw [List.mem_singleton.mp hp]
    exact ⟨rfl, rfl, Bool.and_false _⟩
  | cons part parts ih =>
    have hmore : (parts ++ [[]]).isEmpty = false := by cases parts <;> rfl
    rw [List.cons_append, resolve]
    simp only [hmore, Bool.false_eq_true, if_false]
    split
    · exact ih _
    · split
      · exact ih _
      · split
        · exact ih _
        · exact ih _

/-- An empty segment at the end is written as a slash. -/
theorem endsWith_slash_writePath (file : Bool) (front : List (List Char)) :
    (writePath file (front ++ [[]])).endsWith "/" = true := by
  have hparts : ∀ front : List (List Char),
      ['/'] <:+ (front ++ [[]]).flatMap fun p => '/' :: p := by
    intro front
    rw [List.flatMap_append]
    exact List.suffix_append _ _
  rw [endsWith_slash_iff, writePath, String.toList_ofList]
  split
  · split
    · exact List.suffix_rfl
    · next hkept =>
      -- Of the segments in front only empty ones are left out, and never the last of them all.
      obtain ⟨before, last, hlast⟩ := (List.eq_nil_or_concat _).resolve_left hkept
      obtain ⟨dropped, hdropped⟩ := List.dropWhile_suffix (l := front ++ [[]]) List.isEmpty
      rw [hlast, List.concat_eq_append, ← List.append_assoc] at hdropped
      obtain rfl : last = [] := List.singleton_inj.mp (List.append_inj' hdropped rfl).2
      rw [hlast, List.concat_eq_append]
      exact hparts before
  · exact hparts front

/-! ## Paths that are read -/

theorem endsWith_slash_readPath {scheme : String} {cs : List Char}
    (h : ∃ front, segments (isSpecialScheme scheme) cs = front ++ [[]]) :
    (readPath scheme [] cs).endsWith "/" = true := by
  obtain ⟨front, hfront⟩ := h
  have hencoded : (front ++ [[]]).map (percentEncode inPath) =
      front.map (percentEncode inPath) ++ [[]] := by
    rw [List.map_append]
    rfl
  rw [readPath, hfront, hencoded]
  obtain ⟨kept, hkept⟩ := exists_resolve_slash (isFileScheme scheme) []
    (front.map (percentEncode inPath))
  rw [hkept]
  exact endsWith_slash_writePath _ kept

/-- **A slash at the end stays** when a path is read. -/
theorem endsWith_slash_readPathStart (scheme : String) (cs : List Char) :
    (readPathStart scheme (cs ++ ['/'])).endsWith "/" = true := by
  cases cs with
  | nil => exact endsWith_slash_readPath ⟨[], rfl⟩
  | cons c cs =>
    rw [List.cons_append, readPathStart]
    split
    · obtain ⟨front, -, hfront⟩ := exists_segments_slash (isSpecialScheme scheme) cs
      exact endsWith_slash_readPath ⟨front, hfront⟩
    · obtain ⟨front, -, hfront⟩ := exists_segments_slash (isSpecialScheme scheme) (c :: cs)
      exact endsWith_slash_readPath ⟨front, hfront⟩

/-- An opaque path keeps a slash at its end, unless it stands at the start too. -/
theorem endsWith_slash_readOpaquePath_iff {cs : List Char} :
    (readOpaquePath (cs ++ ['/'])).endsWith "/" = true ↔ cs ≠ [] := by
  have hencoded : ∀ cs, percentEncode isControl (cs ++ ['/']) = percentEncode isControl cs ++ ['/'] :=
    fun cs => List.flatMap_append
  rw [endsWith_slash_iff]
  cases cs with
  | nil => exact iff_of_false (by decide) (by simp)
  | cons c cs =>
    refine iff_of_true ?_ (List.cons_ne_nil c cs)
    by_cases hc : c = '/'
    · subst hc
      have hpath : (readOpaquePath ('/' :: (cs ++ ['/']))).toList =
          "%2F".toList ++ percentEncode isControl cs ++ ['/'] := by
        rw [readOpaquePath, hencoded]
        simp
      rw [List.cons_append, hpath]
      exact List.suffix_append _ _
    · rw [List.cons_append, readOpaquePath, String.toList_ofList, ← List.cons_append, hencoded]
      · exact List.suffix_append _ _
      · rintro rest hrest
        exact hc (List.cons.inj hrest).1

theorem dropBreaks_append_slash (path : String) :
    dropBreaks (path ++ "/").toList = dropBreaks path.toList ++ ['/'] := by
  rw [dropBreaks, String.toList_append, List.filter_append]
  rfl

/-- **Which URLs get a slash at the end of their path.** -/
theorem endsWith_slash_withTrailingSlash_iff {u : Url} :
    u.withTrailingSlash.path.endsWith "/" = true ↔ u.TakesSlash := by
  unfold withTrailingSlash
  split
  · next hends =>
    refine iff_of_true hends fun _ hnil => ?_
    -- The slash at the end is no break, so that it is not dropped.
    have hslash : '/' ∈ u.path.toList := (endsWith_slash_iff.mp hends).subset List.mem_cons_self
    have hmem : '/' ∈ dropBreaks u.path.toList := List.mem_filter.mpr ⟨hslash, rfl⟩
    rw [hnil] at hmem
    cases hmem
  · unfold setPath TakesSlash
    rw [dropBreaks_append_slash]
    cases hkind : u.isOpaque with
    | true => simpa [hkind] using endsWith_slash_readOpaquePath_iff
    | false => simpa [hkind] using endsWith_slash_readPathStart u.scheme _

end NodeAgent.Url
