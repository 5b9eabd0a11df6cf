import LatencyChart.Storage.Store

/-!
# Writing a file

A file is written at one place, below a directory, where no directory stands.  So every
other place keeps its entry, a path that could be followed still leads to the same place,
and the path that was written opens what was written.
-/

namespace LatencyChart

section Except

variable {α β γ : Type} (rename : α → β)

@[simp] theorem mapError_ok (value : γ) :
    (Except.ok value : Except α γ).mapError rename = .ok value := rfl

@[simp] theorem mapError_error (cause : α) :
    (Except.error cause : Except α γ).mapError rename = .error (rename cause) := rfl

end Except

namespace Store

/-! ## Entries -/

theorem entry?_put_self
    (store : Store)
    {place : Place}
    (notRoot : place ≠ [])
    (entry : Entry) :
    Store.entry? (store.put place entry) place = some entry := by
  unfold entry? put
  rw [if_neg notRoot, List.lookup_cons_self]

/-- Every other place keeps its entry. -/
theorem entry?_put_of_ne
    (store : Store)
    {place other : Place}
    (different : other ≠ place)
    (entry : Entry) :
    Store.entry? (store.put place entry) other = store.entry? other := by
  unfold entry? put
  split
  · rfl
  · have mismatch : (other == place) = false := beq_false_of_ne different
    rw [List.lookup_cons, mismatch]
    induction store.entries with
    | nil => rfl
    | cons known rest inductionHypothesis =>
        obtain ⟨knownPlace, knownEntry⟩ := known
        rcases Decidable.em (knownPlace = place) with same | kept
        · have otherKnown : (other == knownPlace) = false := by rw [same, mismatch]
          rw [List.filter_cons_of_neg (by simpa using same), List.lookup_cons, otherKnown]
          exact inductionHypothesis
        · rw [List.filter_cons_of_pos (by simpa using kept), List.lookup_cons, List.lookup_cons]
          cases other == knownPlace with
          | true => rfl
          | false => exact inductionHypothesis

@[simp] theorem start_put
    (store : Store)
    (place : Place)
    (entry : Entry)
    (path : PathName) :
    (store.put place entry).start path = store.start path := rfl

/-! ## Following a path -/

/-- A step goes on from a directory, by a name that is not too long. -/
theorem step_eq_ok_iff
    (store : Store)
    (place next : Place)
    (component : Bytes) :
    store.step place component = .ok next ↔
      store.entry? place = some .directory ∧ component.length ≤ longestName ∧
        enter place component = next := by
  unfold step
  cases store.entry? place with
  | none => simp
  | some entry =>
      cases entry with
      | file content => simp
      | directory =>
          simp only [true_and]
          split
          · next tooLong => simp [Nat.not_le.mpr tooLong]
          · next fits => simp [Nat.le_of_not_lt fits]

theorem follow_nil
    (store : Store)
    (place : Place) :
    store.follow place [] = .ok place := rfl

theorem follow_cons_eq_ok_iff
    (store : Store)
    (place last : Place)
    (component : Bytes)
    (components : List Bytes) :
    store.follow place (component :: components) = .ok last ↔
      ∃ next, store.step place component = .ok next ∧
        store.follow next components = .ok last := by
  unfold follow
  rw [List.foldlM_cons]
  cases store.step place component with
  | error fault =>
      change Except.error fault = .ok last ↔ _
      simp
  | ok next =>
      change List.foldlM store.step next components = .ok last ↔ _
      simp

theorem follow_append_eq_ok_iff
    (store : Store)
    (place last : Place)
    (front back : List Bytes) :
    store.follow place (front ++ back) = .ok last ↔
      ∃ next, store.follow place front = .ok next ∧ store.follow next back = .ok last := by
  induction front generalizing place with
  | nil => simp [follow_nil]
  | cons component front inductionHypothesis =>
      rw [List.cons_append, follow_cons_eq_ok_iff]
      constructor
      · rintro ⟨next, stepped, followed⟩
        obtain ⟨middle, toMiddle, toLast⟩ := (inductionHypothesis next).mp followed
        refine ⟨middle, ?_, toLast⟩
        exact (follow_cons_eq_ok_iff store place middle component front).mpr
          ⟨next, stepped, toMiddle⟩
      · rintro ⟨middle, toMiddle, toLast⟩
        obtain ⟨next, stepped, followed⟩ :=
          (follow_cons_eq_ok_iff store place middle component front).mp toMiddle
        exact ⟨next, stepped, (inductionHypothesis next).mpr ⟨middle, followed, toLast⟩⟩

/-- A file put where no directory stands changes no way through directories. -/
theorem follow_put_eq_ok_iff
    {store : Store}
    {place : Place}
    (noDirectory : store.entry? place ≠ some .directory)
    (notRoot : place ≠ [])
    (content : Content)
    (origin last : Place)
    (components : List Bytes) :
    (store.put place (.file content)).follow origin components = .ok last ↔
      store.follow origin components = .ok last := by
  have sameDirectories (passed : Place) :
      Store.entry? (store.put place (.file content)) passed = some .directory ↔
        store.entry? passed = some .directory := by
    rcases Decidable.em (passed = place) with rfl | different
    · rw [entry?_put_self store notRoot]
      simp [noDirectory]
    · rw [entry?_put_of_ne store different]
  induction components generalizing origin with
  | nil => rfl
  | cons component components inductionHypothesis =>
      rw [follow_cons_eq_ok_iff, follow_cons_eq_ok_iff]
      apply exists_congr
      intro next
      rw [step_eq_ok_iff, step_eq_ok_iff, sameDirectories]
      exact and_congr_right fun _ => inductionHypothesis next

/-! ## The place of a new file -/

/-- Behind its last slash a path has a name, unless it ends with that slash. -/
theorem exists_splitOn_slash_eq (path : PathName) :
    ∃ front name, path.splitOn PathName.slash = front ++ [name] ∧
      (name = [] → path = [] ∨ path.getLast? = some PathName.slash) := by
  induction path with
  | nil => exact ⟨[], [], rfl, fun _ => Or.inl rfl⟩
  | cons first path inductionHypothesis =>
      obtain ⟨front, name, split_eq, ends⟩ := inductionHypothesis
      have endsLater : path.getLast? = some PathName.slash →
          (first :: path).getLast? = some PathName.slash := by
        intro pathEnds
        rw [List.getLast?_cons, pathEnds]
        rfl
      rw [List.splitOn_cons_eq_if_modifyHead, split_eq]
      split
      · next isSlash =>
        refine ⟨[] :: front, name, rfl, ?_⟩
        intro nameEmpty
        rcases ends nameEmpty with rfl | pathEnds
        · rw [eq_of_beq isSlash]
          exact Or.inr rfl
        · exact Or.inr (endsLater pathEnds)
      · cases front with
        | nil => exact ⟨[], first :: name, rfl, fun nameEmpty => nomatch nameEmpty⟩
        | cons piece front =>
            refine ⟨(first :: piece) :: front, name, rfl, ?_⟩
            intro nameEmpty
            rcases ends nameEmpty with rfl | pathEnds
            · -- The empty path has no slash, so it is one piece.
              have lengths := congrArg List.length split_eq
              simp at lengths
            · exact Or.inr (endsLater pathEnds)

/-- What has to hold for a path to let a file be created. -/
theorem locateNew_eq_ok
    {store : Store}
    {path : PathName}
    {place : Place}
    (found : store.locateNew path = .ok place) :
    checkPath path = .ok () ∧
      ∃ directory name,
        ((path.splitOn PathName.slash).filter (· != [])).getLast? = some name ∧
        store.follow (store.start path)
          ((path.splitOn PathName.slash).filter (· != [])).dropLast = .ok directory ∧
        store.entry? directory = some .directory ∧
        ¬(path.getLast? = some PathName.slash ∨ name = [PathName.dot] ∨
          name = [PathName.dot, PathName.dot]) ∧
        name.length ≤ longestName ∧
        place = directory ++ [name] ∧ store.entry? place ≠ some .directory := by
  unfold locateNew at found
  cases valid : checkPath path with
  | error fault =>
      rw [valid] at found
      contradiction
  | ok _ =>
      rw [valid] at found
      simp only [bind, Except.bind] at found
      refine ⟨rfl, ?_⟩
      split at found
      · contradiction
      next name isLast =>
      cases followed : store.follow (store.start path)
          ((path.splitOn PathName.slash).filter (· != [])).dropLast with
      | error fault =>
          rw [followed] at found
          contradiction
      | ok directory =>
          rw [followed] at found
          simp only [mapError_ok] at found
          split at found
          · contradiction
          · contradiction
          next isDirectory =>
          split at found
          · contradiction
          next namesFile =>
          split at found
          · contradiction
          next fits =>
          split at found
          · contradiction
          next notDirectory =>
          cases found
          exact ⟨directory, name, isLast, rfl, isDirectory, namesFile, Nat.le_of_not_lt fits, rfl,
            notDirectory⟩

/-- A place at which a path lets a file be created: a name in a directory, which the path
spells behind the way to that directory. -/
structure IsNewPlace
    (store : Store)
    (path : PathName)
    (place : Place) : Prop where
  valid : checkPath path = .ok ()
  notDirectory : store.entry? place ≠ some .directory
  spelled : ∃ front directory name,
    path.splitOn PathName.slash = front ++ [name] ∧
      store.follow (store.start path) (front.filter (· != [])) = .ok directory ∧
      store.entry? directory = some .directory ∧
      place = directory ++ [name] ∧ name.length ≤ longestName ∧ name ≠ [] ∧
      name ≠ [PathName.dot] ∧ name ≠ [PathName.dot, PathName.dot]

theorem isNewPlace_of_locateNew
    {store : Store}
    {path : PathName}
    {place : Place}
    (found : store.locateNew path = .ok place) :
    store.IsNewPlace path place := by
  obtain ⟨valid, directory, name, isLast, followed, isDirectory, namesFile, fits, place_eq,
    notDirectory⟩ := locateNew_eq_ok found
  obtain ⟨front, last, split_eq, ends⟩ := exists_splitOn_slash_eq path
  have lastNonempty : last ≠ [] := by
    intro lastEmpty
    rcases ends lastEmpty with rfl | pathEnds
    · contradiction
    · exact namesFile (Or.inl pathEnds)
  have components_eq :
      (path.splitOn PathName.slash).filter (· != []) = front.filter (· != []) ++ [last] := by
    rw [split_eq, List.filter_append, List.filter_cons_of_pos (by simpa using lastNonempty)]
    rfl
  rw [components_eq, List.getLast?_concat, Option.some.injEq] at isLast
  rw [components_eq, List.dropLast_concat] at followed
  obtain rfl := isLast
  exact ⟨valid, notDirectory, front, directory, last, split_eq, followed, isDirectory, place_eq,
    fits, lastNonempty, fun isDot => namesFile (Or.inr (Or.inl isDot)),
    fun isDots => namesFile (Or.inr (Or.inr isDots))⟩

/-- Empty components lead nowhere, as long as they stand in a directory. -/
theorem follow_of_filter
    {store : Store}
    {origin last : Place}
    {components : List Bytes}
    (followed : store.follow origin (components.filter (· != [])) = .ok last)
    (isDirectory : store.entry? last = some .directory) :
    store.follow origin components = .ok last := by
  induction components generalizing origin with
  | nil => exact followed
  | cons component components inductionHypothesis =>
      rcases Decidable.em (component = []) with rfl | nonempty
      · rw [List.filter_cons_of_neg (by simp)] at followed
        have originIsDirectory : store.entry? origin = some .directory := by
          cases kept : components.filter (· != []) with
          | nil =>
              rw [kept, follow_nil] at followed
              rw [Except.ok.inj followed]
              exact isDirectory
          | cons component later =>
              rw [kept] at followed
              obtain ⟨next, stepped, -⟩ := (follow_cons_eq_ok_iff ..).mp followed
              exact ((step_eq_ok_iff ..).mp stepped).1
        refine (follow_cons_eq_ok_iff ..).mpr ⟨origin, ?_, inductionHypothesis followed⟩
        exact (step_eq_ok_iff ..).mpr ⟨originIsDirectory, Nat.zero_le _, rfl⟩
      · rw [List.filter_cons_of_pos (by simpa using nonempty)] at followed
        obtain ⟨next, stepped, later⟩ := (follow_cons_eq_ok_iff ..).mp followed
        exact (follow_cons_eq_ok_iff ..).mpr ⟨next, stepped, inductionHypothesis later⟩

theorem locate_eq_ok_iff
    (store : Store)
    (path : PathName)
    (place : Place) :
    store.locate path = .ok place ↔
      checkPath path = .ok () ∧
        store.follow (store.start path) (path.splitOn PathName.slash) = .ok place := by
  unfold locate
  cases checkPath path with
  | error fault =>
      change Except.error fault = .ok place ↔ _
      simp
  | ok _ =>
      change (store.follow (store.start path) (path.splitOn PathName.slash)).mapError _ = _ ↔ _
      cases store.follow (store.start path) (path.splitOn PathName.slash) <;> simp

/-- A path leads to the place at which it lets a file be created. -/
theorem IsNewPlace.locate
    {store : Store}
    {path : PathName}
    {place : Place}
    (isNew : store.IsNewPlace path place) :
    store.locate path = .ok place := by
  obtain ⟨valid, -, front, directory, name, split_eq, followed, isDirectory, rfl, fits, nonempty,
    notDot, notDots⟩ := isNew
  have entered : enter directory name = directory ++ [name] := by
    unfold enter
    rw [if_neg (not_or.mpr ⟨nonempty, notDot⟩), if_neg notDots]
  refine (locate_eq_ok_iff ..).mpr ⟨valid, ?_⟩
  rw [split_eq]
  refine (follow_append_eq_ok_iff ..).mpr ⟨directory, follow_of_filter followed isDirectory, ?_⟩
  refine (follow_cons_eq_ok_iff ..).mpr ⟨directory ++ [name], ?_, follow_nil store _⟩
  exact (step_eq_ok_iff ..).mpr ⟨isDirectory, fits, entered⟩

theorem IsNewPlace.ne_root
    {store : Store}
    {path : PathName}
    {place : Place}
    (isNew : store.IsNewPlace path place) :
    place ≠ [] := by
  obtain ⟨-, -, front, directory, name, -, -, -, rfl, -⟩ := isNew
  exact List.concat_ne_nil name directory

/-! ## Writing -/

/-- A path opens what stands at the place that it leads to. -/
theorem open?_eq_ok_iff
    (store : Store)
    (path : PathName)
    (entry : Entry) :
    store.open? path = .ok entry ↔
      ∃ place, store.locate path = .ok place ∧ store.entry? place = some entry := by
  unfold open?
  cases store.locate path with
  | error fault =>
      change Except.error fault = .ok entry ↔ _
      simp
  | ok place =>
      simp only [bind, Except.bind, Except.ok.injEq, exists_eq_left']
      cases store.entry? place <;> simp

/-- A path leads to the same place after a file was put where no directory stands. -/
theorem locate_put_eq_ok_iff
    {store : Store}
    {place : Place}
    (noDirectory : store.entry? place ≠ some .directory)
    (notRoot : place ≠ [])
    (content : Content)
    (path : PathName)
    (other : Place) :
    (store.put place (.file content)).locate path = .ok other ↔
      store.locate path = .ok other := by
  rw [locate_eq_ok_iff, locate_eq_ok_iff, start_put,
    follow_put_eq_ok_iff noDirectory notRoot]

theorem write_eq_ok_iff
    (store written : Store)
    (path : PathName)
    (content : Content) :
    store.write path content = .ok written ↔
      ∃ place, store.locateNew path = .ok place ∧ written = store.put place (.file content) := by
  unfold write
  cases store.locateNew path with
  | error fault => simp [Except.map]
  | ok place =>
      constructor
      · intro wrote
        cases wrote
        exact ⟨place, rfl, rfl⟩
      · rintro ⟨found, equal, rfl⟩
        cases equal
        rfl

theorem write_eq_error_iff
    (store : Store)
    (path : PathName)
    (content : Content)
    (fault : IoFault) :
    store.write path content = .error fault ↔ store.locateNew path = .error fault := by
  unfold write
  cases store.locateNew path <;> simp [Except.map]

/-- A path that was written opens what was written. -/
theorem open?_of_write
    {store written : Store}
    {path : PathName}
    {content : Content}
    (wrote : store.write path content = .ok written) :
    written.open? path = .ok (.file content) := by
  obtain ⟨place, found, rfl⟩ := (write_eq_ok_iff ..).mp wrote
  have isNew := isNewPlace_of_locateNew found
  refine (open?_eq_ok_iff ..).mpr ⟨place, ?_, entry?_put_self store isNew.ne_root _⟩
  exact (locate_put_eq_ok_iff isNew.notDirectory isNew.ne_root ..).mpr isNew.locate

/-- A path that leads elsewhere opens what it opened before. -/
theorem open?_put_eq_ok_iff
    {store : Store}
    {place : Place}
    (noDirectory : store.entry? place ≠ some .directory)
    (notRoot : place ≠ [])
    (content : Content)
    {path : PathName}
    (leadsElsewhere : store.locate path ≠ .ok place)
    (entry : Entry) :
    (store.put place (.file content)).open? path = .ok entry ↔
      store.open? path = .ok entry := by
  rw [open?_eq_ok_iff, open?_eq_ok_iff]
  apply exists_congr
  intro other
  rw [locate_put_eq_ok_iff noDirectory notRoot]
  apply and_congr_right
  intro located
  have different : other ≠ place := by
    rintro rfl
    exact leadsElsewhere located
  rw [entry?_put_of_ne store different]

/-- A store that differs from an earlier one at most in the file that a path names. -/
structure ChangesOnly
    (before : Store)
    (path : PathName)
    (after : Store) : Prop where
  working : after.working = before.working
  entries : ∀ other, before.locateNew path ≠ .ok other →
    after.entry? other = before.entry? other
  opens : ∀ otherPath,
    (∀ place, before.locateNew path = .ok place → before.locate otherPath ≠ .ok place) →
      ∀ entry, after.open? otherPath = .ok entry ↔ before.open? otherPath = .ok entry

theorem ChangesOnly.refl
    (store : Store)
    (path : PathName) :
    store.ChangesOnly path store :=
  ⟨rfl, fun _ _ => rfl, fun _ _ _ => Iff.rfl⟩

/-- Writing changes nothing but the file that is written. -/
theorem changesOnly_of_write
    {store written : Store}
    {path : PathName}
    {content : Content}
    (wrote : store.write path content = .ok written) :
    store.ChangesOnly path written := by
  obtain ⟨place, found, rfl⟩ := (write_eq_ok_iff ..).mp wrote
  have isNew := isNewPlace_of_locateNew found
  refine ⟨rfl, ?_, ?_⟩
  · intro other elsewhere
    have different : other ≠ place := by
      rintro rfl
      exact elsewhere found
    exact entry?_put_of_ne store different _
  · intro otherPath leadsElsewhere entry
    exact open?_put_eq_ok_iff isNew.notDirectory isNew.ne_root content
      (leadsElsewhere place found) entry

end Store
end LatencyChart
