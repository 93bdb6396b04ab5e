import DocumentSearch.Proofs.Matching.Options

/-!
# Options in a fragment of one kind

A boost and a request for inner hits are written into the body of a fragment without regard to what
stands there. In a body of the form that its kind asks for they can be written whenever the inner
hits can be read, and taken out again unless the body has entries of their names.
-/
namespace DocumentSearch.Fragment

open Outcome

/-- Inner hits are asked for by a table of settings, by true or by what counts as false. -/
def Readable (options : Entries) : Prop :=
  ∀ v, options.find? "inner_hits" = some v → ∃ hits, innerHitsOf v = .ok hits

/-- The bodies that kinds of fragments have: one value for one column, the parameters of one column,
or a table of settings. -/
inductive Form (kind : Value) : Entries → Prop
  | value (isValue : valueKinds.contains kind = true) (column v : Value) : Form kind [(column, v)]
  | field (notValue : valueKinds.contains kind = false) (isField : fieldKinds.contains kind = true)
      (column : Value) {parameters : Entries} (new : Table.find? parameters "boost" = none) :
      Form kind [(column, .map parameters)]
  | table (notValue : valueKinds.contains kind = false)
      (notField : fieldKinds.contains kind = false) (fields : Entries) : Form kind fields

/-- The boost in a body, which stands among the parameters of a column if the kind has a column. -/
def boostIn (kind : Value) (body : Entries) : Option Value :=
  if valueKinds.contains kind || fieldKinds.contains kind then
    match body with
    | (_, .map parameters) :: _ => Table.find? parameters "boost"
    | _ => none
  else body.find? "boost"

/-- A body with its boost taken out; a value that was moved aside for it moves back. -/
def unboosted (kind : Value) (body : Entries) : Entries :=
  if valueKinds.contains kind then
    match body with
    | (column, .map parameters) :: rest =>
      (column, (Table.find? parameters "value").getD .null) :: rest
    | body => body
  else if fieldKinds.contains kind then
    match body with
    | (column, .map parameters) :: rest => (column, .map (Table.erase parameters "boost")) :: rest
    | body => body
  else body.erase "boost"

/-- What a boost makes of a body. -/
structure Boosted (kind boost : Value) (body changed : Entries) : Prop where
  carried : boostIn kind changed = some boost
  back : valueKinds.contains kind = true ∨ fieldKinds.contains kind = true ∨
    body.find? "boost" = none → unboosted kind changed = body
  hits : changed.find? "inner_hits" = none ↔ body.find? "inner_hits" = none

theorem Form.boosted {kind : Value} {body : Entries} (form : Form kind body) (boost : Value) :
    ∃ changed, boosted boost kind (.map body) = .ok (.map changed) ∧
      Boosted kind boost body changed := by
  cases form with
  | value isValue column v =>
    refine ⟨[(column, .map [("value", v), ("boost", boost)])], ?_, ?_, fun _ => ?_, ?_⟩
    · simp only [Fragment.boosted, isValue, if_true]
      rfl
    · simp [boostIn, isValue, Table.find?_cons]
    · simp [unboosted, isValue, Table.find?_cons]
    · simp [Table.find?_cons]
  | @field notValue isField column parameters new =>
    refine ⟨[(column, .map (parameters.insert "boost" boost))], ?_, ?_, fun _ => ?_, ?_⟩
    · simp only [Fragment.boosted, notValue, isField, Bool.false_eq_true, if_false, if_true]
      rfl
    · simp [boostIn, isField]
    · simp [unboosted, notValue, isField, Table.erase_insert_of_new boost new]
    · simp [Table.find?_cons]
  | table notValue notField fields =>
    refine ⟨Table.insert body "boost" boost, ?_, ?_, fun clear => ?_, ?_⟩
    · simp only [Fragment.boosted, notValue, notField, Bool.false_eq_true, if_false]
      rfl
    · simp [boostIn, notValue, notField]
    · have new : Table.find? body "boost" = none := by simpa [notValue, notField] using clear
      simp [unboosted, notValue, notField, Table.erase_insert_of_new boost new]
    · rw [Table.find?_insert_of_ne _ _ (by simp)]

/-- Inner hits do not hide a boost. -/
theorem boostIn_append {kind boost : Value} {body : Entries} (h : boostIn kind body = some boost)
    (extra : Entries) : boostIn kind (body ++ extra) = some boost := by
  unfold boostIn at h ⊢
  split
  · rename_i named
    rw [if_pos named] at h
    cases body with
    | nil => cases h
    | cons p rest =>
      obtain ⟨column, parameters⟩ := p
      cases parameters with
      | map parameters => exact h
      | _ => cases h
  · rename_i plain
    rw [if_neg plain] at h
    rw [Table.find?_append, h, Option.some_or]

theorem updateFirst_eq_ok {f : Value → Value → Except Misuse Value} {kind body changed : Value}
    (done : f kind body = .ok changed) : updateFirst f [(kind, body)] = .ok [(kind, changed)] := by
  change f kind body >>= (fun c => pure (Table.insert [(kind, body)] kind c)) = _
  rw [done]
  exact congrArg Except.ok (by simp [Table.insert])

/-- The inner hits that options ask for, beside the entries of a body. -/
def withHits (hits : Option Value) (body : Entries) : Entries :=
  match hits with
  | some hits => body.insert "inner_hits" hits
  | none => body

/-- What options that can be read make of a body. -/
structure Written (options : Entries) (kind : Value) (body changed : Entries)
    (hits : Option Value) : Prop where
  eq_ok : withOptions [(kind, .map body)] options = .ok [(kind, .map (withHits hits changed))]
  boosted : ∀ boost, options.find? "boost" = some boost → Boosted kind boost body changed
  unboosted : options.find? "boost" = none → changed = body
  asked : ∀ v, options.find? "inner_hits" = some v →
    ∃ wanted, innerHitsOf v = .ok wanted ∧ hits = some wanted
  unasked : options.find? "inner_hits" = none → hits = none

theorem Written.of_boosted {options : Entries} {kind : Value} {body changed : Entries}
    (readable : Readable options)
    (done : withOptions [(kind, .map body)] options =
      (match options.find? "inner_hits" with
        | some v => innerHitsOf v >>= fun hits =>
            updateFirst (withInnerHits hits) [(kind, .map changed)]
        | none => .ok [(kind, .map changed)]))
    (boosted : ∀ boost, options.find? "boost" = some boost → Boosted kind boost body changed)
    (unboosted : options.find? "boost" = none → changed = body) :
    ∃ hits, Written options kind body changed hits := by
  cases asked : options.find? "inner_hits" with
  | none =>
    rw [asked] at done
    exact ⟨none, done, boosted, unboosted, by simp [asked], fun _ => rfl⟩
  | some v =>
    obtain ⟨wanted, read⟩ := readable v asked
    rw [asked] at done
    refine ⟨some wanted, done.trans ?_, boosted, unboosted, ?_, by simp [asked]⟩
    · dsimp only
      rw [read]
      have laid : withInnerHits wanted kind (.map changed) =
          .ok (.map (changed.insert "inner_hits" wanted)) := rfl
      exact updateFirst_eq_ok laid
    · intro other same
      cases asked.symm.trans same
      exact ⟨wanted, read, rfl⟩

/-- Options are written into a body whenever the inner hits that they ask for can be read. -/
theorem Form.written {kind : Value} {body options : Entries} (form : Form kind body)
    (readable : Readable options) : ∃ changed hits, Written options kind body changed hits := by
  cases asked : options.find? "boost" with
  | none =>
    refine ⟨body, Written.of_boosted readable ?_ (by simp [asked]) fun _ => rfl⟩
    rw [withOptions_eq, asked]
    rfl
  | some boost =>
    obtain ⟨changed, done, boosted⟩ := form.boosted boost
    refine ⟨changed, Written.of_boosted readable ?_ ?_ (by simp [asked])⟩
    · rw [withOptions_eq, asked]
      dsimp only
      rw [updateFirst_eq_ok done]
      rfl
    · intro other same
      cases asked.symm.trans same
      exact boosted

/-! ## Taking options out again -/

def strip (options : Entries) (kind : Value) (body : Entries) : Entries :=
  let body := if options.has "inner_hits" then Table.erase body "inner_hits" else body
  if options.has "boost" then unboosted kind body else body

def without (options : Entries) : Entries → Entries
  | [(kind, .map body)] => [(kind, .map (strip options kind body))]
  | fragment => fragment

def boostOf : Entries → Option Value
  | [(kind, .map body)] => boostIn kind body
  | _ => none

def innerHitsIn : Entries → Option Value
  | [(_, .map body)] => Table.find? body "inner_hits"
  | _ => none

/-- A fragment with the options that were asked for, which is another one once they are taken
out. -/
structure Carries (options plain written : Entries) : Prop where
  boost : ∀ boost, options.find? "boost" = some boost → boostOf written = some boost
  innerHits : ∀ v, options.find? "inner_hits" = some v →
    ∃ hits, innerHitsOf v = .ok hits ∧ innerHitsIn written = some hits
  back : without options written = plain

/-- A fragment that has no entry of its own in the place of an option. -/
def Spares (options : Entries) : Entries → Prop
  | [(kind, .map body)] =>
    (options.has "boost" → valueKinds.contains kind = true ∨ fieldKinds.contains kind = true ∨
      Table.find? body "boost" = none) ∧
    (options.has "inner_hits" → Table.find? body "inner_hits" = none)
  | _ => True

theorem find?_unboosted {kind : Value} {body : Entries} {key : String}
    (h : Table.find? body key = none) : Table.find? (unboosted kind body) key = none := by
  have first : ∀ (column v w : Value) (rest : Entries),
      Table.find? ((column, v) :: rest) key = none →
        Table.find? ((column, w) :: rest) key = none := by
    intro column v w rest h
    rw [Table.find?_cons] at h ⊢
    split at h
    · cases h
    · rename_i other
      rwa [if_neg other]
  unfold unboosted
  split
  · split
    · exact first _ _ _ _ h
    · exact h
  · split
    · split
      · exact first _ _ _ _ h
      · exact h
    · by_cases same : key = "boost"
      · subst same
        exact Table.find?_erase_self body _
      · rwa [Table.find?_erase_of_ne _ (by simpa using same)]

theorem find?_strip_boost {options : Entries} {kind : Value} (asked : options.has "boost" = true)
    (notValue : valueKinds.contains kind = false) (notField : fieldKinds.contains kind = false)
    (body : Entries) : Table.find? (strip options kind body) "boost" = none := by
  simp [strip, asked, unboosted, notValue, notField]

theorem find?_strip_innerHits {options : Entries} (asked : options.has "inner_hits" = true)
    (kind : Value) (body : Entries) :
    Table.find? (strip options kind body) "inner_hits" = none := by
  have erased : Table.find? (Table.erase body "inner_hits") "inner_hits" = none :=
    Table.find?_erase_self body _
  rw [strip, asked, if_pos rfl]
  split
  · exact find?_unboosted erased
  · exact erased

theorem has_of_find? {options : Entries} {key : String} {v : Value}
    (h : options.find? key = some v) : options.has key = true := by simp [Table.has, h]

theorem has_eq_false {options : Entries} {key : String} (h : options.find? key = none) :
    options.has key = false := by simp [Table.has, h]

section Written

variable {options : Entries} {kind : Value} {body changed : Entries} {hits : Option Value}

theorem Written.strip_innerHits (written : Written options kind body changed hits)
    (spare : options.has "inner_hits" → Table.find? changed "inner_hits" = none) :
    (if options.has "inner_hits" then Table.erase (withHits hits changed) "inner_hits"
      else withHits hits changed) = changed := by
  cases asked : options.find? "inner_hits" with
  | none =>
    rw [written.unasked asked, has_eq_false asked]
    rfl
  | some v =>
    obtain ⟨wanted, -, rfl⟩ := written.asked v asked
    rw [has_of_find? asked, if_pos rfl]
    exact Table.erase_insert_of_new wanted (spare (has_of_find? asked))

/-- What was written can be taken out again unless the body had entries in its place. -/
theorem Written.strip_eq (written : Written options kind body changed hits)
    (spares : Spares options [(kind, .map body)]) :
    strip options kind (withHits hits changed) = body := by
  obtain ⟨boostFree, hitsFree⟩ := spares
  cases asked : options.find? "boost" with
  | none =>
    obtain rfl := written.unboosted asked
    rw [strip, written.strip_innerHits hitsFree, has_eq_false asked]
    rfl
  | some boost =>
    have boosted := written.boosted boost asked
    rw [strip, written.strip_innerHits fun h => boosted.hits.mpr (hitsFree h), has_of_find? asked,
      if_pos rfl]
    exact boosted.back (boostFree (has_of_find? asked))

theorem Written.boostIn_eq (written : Written options kind body changed hits)
    (spares : Spares options [(kind, .map body)]) {boost : Value}
    (asked : options.find? "boost" = some boost) :
    boostIn kind (withHits hits changed) = some boost := by
  have boosted := written.boosted boost asked
  cases hits with
  | none => exact boosted.carried
  | some wanted =>
    have wants : options.has "inner_hits" = true := by
      cases none : options.find? "inner_hits" with
      | none => cases written.unasked none
      | some v => exact has_of_find? none
    have new : Table.find? changed "inner_hits" = none := boosted.hits.mpr (spares.2 wants)
    rw [withHits, Table.insert_of_new wanted new]
    exact boostIn_append boosted.carried _

theorem Form.carries (form : Form kind body) (readable : Readable options) :
    ∃ written, withOptions [(kind, .map body)] options = .ok written ∧
      (Carries options [(kind, .map body)] written ↔ Spares options [(kind, .map body)]) := by
  obtain ⟨changed, hits, written⟩ := form.written readable
  refine ⟨_, written.eq_ok, fun carries => ?_, fun spares => ?_⟩
  · have back : strip options kind (withHits hits changed) = body := by
      simpa [without] using carries.back
    refine ⟨fun asked => ?_, fun asked => back ▸ find?_strip_innerHits asked kind _⟩
    cases notValue : valueKinds.contains kind with
    | true => exact .inl rfl
    | false =>
      cases notField : fieldKinds.contains kind with
      | true => exact .inr (.inl rfl)
      | false => exact .inr (.inr (back ▸ find?_strip_boost asked notValue notField _))
  · refine ⟨fun boost asked => written.boostIn_eq spares asked, fun v asked => ?_, ?_⟩
    · obtain ⟨wanted, read, rfl⟩ := written.asked v asked
      exact ⟨wanted, read, Table.find?_insert_self changed _ _⟩
    · simp [without, written.strip_eq spares]

end Written

theorem Readable.of_withOptions {fragment options f : Entries}
    (h : withOptions fragment options = .ok f) : Readable options := by
  intro v asked
  rw [withOptions_eq, asked] at h
  obtain ⟨boosted, -, h⟩ := bind_eq_ok.mp h
  obtain ⟨wanted, read, -⟩ := bind_eq_ok.mp h
  exact ⟨wanted, read⟩

end DocumentSearch.Fragment
