import EasyProspect.ImportStack

namespace EasyProspect

namespace Catalog

open Traversal Importer

/-!
# The ids of the objects

`insert_new_object` keeps the id of the row that it has inserted in an `int`.  The builder gets
what is left of it, and still has that when the import ends, in whatever way.
-/

/-- SQLite gives a row an id that no other row has; those of the table are positive. -/
structure Sqlite.Assigns (sqlite : Sqlite) : Prop where
  positive : forall rows rowid, sqlite.insert rows = .ok rowid -> 1 ≤ rowid.toInt
  fresh : forall rows rowid, sqlite.insert rows = .ok rowid -> rowid ∉ rows

def ImportRun.idOf (run : ImportRun) (reference : BuilderRef) : Option UInt64 :=
  (run.builders reference).map SfBuilder.esoId

/-- The builders that are asked about, be it those of `new_parser_object` or all of them, have
ids that name their rows, each another one. -/
structure IdsSurvive (asked : BuilderRef -> Prop) (run : ImportRun) : Prop where
  named : forall row, row ∈ run.rows -> asked row.builder ->
    Exists fun id => run.idOf row.builder = some id ∧ (id.toNat : Int) = row.rowid.toInt
  different : run.rows.Pairwise fun row other => asked row.builder -> asked other.builder ->
    run.idOf row.builder ≠ run.idOf other.builder

/-- Each row has an id of its own, and its builder has what is left of that. -/
structure Recorded (run : ImportRun) : Prop where
  positive : forall row, row ∈ run.rows -> 1 ≤ row.rowid.toInt
  distinct : (run.rows.map ObjectRow.rowid).Nodup
  kept : forall row, row ∈ run.rows -> run.idOf row.builder = some (rowId row.rowid)

/-! ## What is left of an id -/

section Ids

variable {rowid : Int64} {run : ImportRun}

theorem toInt32_eq_iff (positive : 1 ≤ rowid.toInt) :
    rowid.toInt32.toInt64 = rowid <-> rowid.toInt ≤ Int32.maxValue.toInt := by
  have bound := rowid.toInt_lt
  rw [← Int64.toInt_inj, Int32.toInt_toInt64, Int64.toInt_toInt32, Int.bmod_def,
    Int32.toInt_maxValue]
  split
  · omega
  · omega

theorem toNat_toUInt64 (positive : 1 ≤ rowid.toInt) :
    (rowid.toUInt64.toNat : Int) = rowid.toInt := by
  have notNegative : 0 ≤ rowid := by
    rw [Int64.le_iff_toInt_le]
    exact Int.le_trans (by decide) positive
  rw [Int64.toNat_toUInt64_of_le notNegative, Int64.cast_toNatClampNeg _ notNegative]

theorem rowId_eq_iff (positive : 1 ≤ rowid.toInt) :
    ((rowId rowid).toNat : Int) = rowid.toInt <-> rowid.toInt ≤ Int32.maxValue.toInt := by
  rw [← toInt32_eq_iff positive, ← toNat_toUInt64 positive, Int.ofNat_inj, UInt64.toNat_inj,
    rowId]
  constructor
  · exact fun same => congrArg UInt64.toInt64 same
  · exact fun same => congrArg Int64.toUInt64 same

/-- The ids that are given survive exactly if an `int` can hold them. -/
theorem Recorded.survive_iff (recorded : Recorded run) (asked : BuilderRef -> Prop) :
    IdsSurvive asked run <->
      forall row, row ∈ run.rows -> asked row.builder -> row.rowid.toInt ≤ Int32.maxValue.toInt := by
  have named : forall row, row ∈ run.rows ->
      ((Exists fun id => run.idOf row.builder = some id ∧ (id.toNat : Int) = row.rowid.toInt) <->
        row.rowid.toInt ≤ Int32.maxValue.toInt) := by
    intro row member
    rw [recorded.kept row member, ← rowId_eq_iff (recorded.positive row member)]
    constructor
    · rintro ⟨id, ⟨⟩, names⟩
      exact names
    · exact fun names => ⟨_, rfl, names⟩
  constructor
  · exact fun survive row member chosen => (named row member).mp (survive.named row member chosen)
  · intro small
    refine ⟨fun row member chosen => (named row member).mpr (small row member chosen), ?_⟩
    refine List.Pairwise.imp_of_mem ?_ (List.pairwise_map.mp recorded.distinct)
    intro row other first second apart chosen besides same
    rw [recorded.kept row first, recorded.kept other second] at same
    have whole := (rowId_eq_iff (recorded.positive row first)).mpr (small row first chosen)
    have rest := (rowId_eq_iff (recorded.positive other second)).mpr (small other second besides)
    rw [Option.some.inj same, rest] at whole
    exact apart (Int64.toInt_inj.mp whole.symm)

end Ids

/-! ## What a computation does to the rows -/

/-- The builder has no row. -/
def Unowned (reference : BuilderRef) (run : ImportRun) : Prop :=
  forall row, row ∈ run.rows -> row.builder ≠ reference

/-- Rows are added for some builders, and what is recorded stays recorded. -/
structure Records (owners : BuilderRef -> Prop) (run next : ImportRun) : Prop where
  rows : Exists fun added => next.rows = run.rows ++ added ∧
    forall row, row ∈ added -> owners row.builder
  recorded : Recorded run -> Recorded next

section Rows

variable {owners wider : BuilderRef -> Prop} {run middle next : ImportRun}
variable {reference other : BuilderRef} {sqlite : Sqlite} {importId : UInt64}
variable {builderClass : BuilderClass} {stack : Bool} {rowid : Int64}

theorem Records.refl (owners : BuilderRef -> Prop) (run : ImportRun) : Records owners run run where
  rows := ⟨[], (List.append_nil _).symm, fun _ member => nomatch member⟩
  recorded := id

theorem Records.trans (early : Records owners run middle) (late : Records owners middle next) :
    Records owners run next where
  rows := by
    rcases early.rows with ⟨before, first, own⟩
    rcases late.rows with ⟨after, second, theirs⟩
    refine ⟨before ++ after, by rw [second, first, List.append_assoc], fun row member => ?_⟩
    rcases List.mem_append.mp member with old | new
    · exact own row old
    · exact theirs row new
  recorded := fun recorded => late.recorded (early.recorded recorded)

theorem Records.mono (records : Records owners run next)
    (within : forall reference, owners reference -> wider reference) :
    Records wider run next where
  rows := by
    rcases records.rows with ⟨added, whole, own⟩
    exact ⟨added, whole, fun row member => within _ (own row member)⟩
  recorded := records.recorded

theorem Records.unowned (records : Records owners run next) (outside : ¬owners reference)
    (unowned : Unowned reference run) : Unowned reference next := by
  rcases records.rows with ⟨added, whole, own⟩
  intro row member
  rw [whole, List.mem_append] at member
  rcases member with old | new
  · exact unowned row old
  · rintro rfl
    exact outside (own row new)

/-- No row is added, and the builders that have one keep their ids. -/
theorem records_of_ids (rows : next.rows = run.rows)
    (ids : forall row, row ∈ run.rows -> next.idOf row.builder = run.idOf row.builder) :
    Records owners run next where
  rows := ⟨[], by rw [rows, List.append_nil], fun _ member => nomatch member⟩
  recorded := by
    intro recorded
    refine ⟨rows ▸ recorded.positive, rows ▸ recorded.distinct, fun row member => ?_⟩
    rw [rows] at member
    rw [ids row member, recorded.kept row member]

theorem records_begun (unowned : Unowned reference run) :
    Records owners run (run.begun reference builderClass stack) := by
  refine records_of_ids rfl fun row member => ?_
  exact congrArg (Option.map SfBuilder.esoId) (Function.update_of_ne (unowned row member) _ _)

theorem records_construct (unowned : Unowned reference run) (builderClass : BuilderClass) :
    Records owners run (endState (construct reference (.make builderClass)) run) := by
  change Records owners run (run.begun reference builderClass false)
  exact records_begun unowned

theorem records_changed {set : SfBuilder -> SfBuilder}
    (same : forall builder, (set builder).esoId = builder.esoId) :
    Records owners run (run.changed reference set) := by
  refine records_of_ids rfl fun row _ => ?_
  rw [ImportRun.idOf, ImportRun.idOf]
  by_cases own : row.builder = reference
  · rw [own, ImportRun.changed_self, Option.map_map]
    exact congrArg (fun esoId => Option.map esoId _) (funext same)
  · rw [ImportRun.changed_other own]

/-- A builder without a row gets one. -/
theorem records_withRow (assigns : sqlite.Assigns)
    (inserted : sqlite.insert (run.rows.map ObjectRow.rowid) = .ok rowid)
    (unowned : Unowned reference run) (made : (run.builders reference).isSome = true) :
    Records (fun other => other = reference) run (run.withRow importId reference rowid) where
  rows := ⟨[⟨rowid, reference⟩], rfl, fun row member => by rw [List.mem_singleton.mp member]⟩
  recorded := by
    intro recorded
    have new : forall row, row ∈ run.rows ++ [⟨rowid, reference⟩] ->
        row ∈ run.rows ∨ row = ⟨rowid, reference⟩ := fun row member =>
      (List.mem_append.mp member).imp_right List.mem_singleton.mp
    refine ⟨fun row member => ?_, ?_, fun row member => ?_⟩
    · rcases new row member with old | rfl
      · exact recorded.positive row old
      · exact assigns.positive _ _ inserted
    · change ((run.rows ++ [_]).map ObjectRow.rowid).Nodup
      rw [List.map_append, List.nodup_append]
      refine ⟨recorded.distinct, List.pairwise_singleton _ _, ?_⟩
      rintro old member _ last rfl
      cases List.mem_singleton.mp last
      exact assigns.fresh _ _ inserted member
    · rcases new row member with old | rfl
      · rw [← recorded.kept row old]
        exact congrArg (Option.map SfBuilder.esoId)
          (Function.update_of_ne (unowned row old) _ _)
      · rcases Option.isSome_iff_exists.mp made with ⟨builder, present⟩
        have updated : (run.withRow importId reference rowid).builders reference =
            some ((builder.setId (rowId rowid)).setImportId importId) := by
          simp only [ImportRun.withRow, Function.update_self, present, Option.map_some]
        exact congrArg (Option.map SfBuilder.esoId) updated

end Rows

/-! ## Computations -/

/-- Neither a row nor a builder has changed. -/
structure Untouched (run last : ImportRun) : Prop where
  rows : last.rows = run.rows
  builders : last.builders = run.builders

def Quiet {Value : Type} (importer : Importer Value) : Prop :=
  forall run, Untouched run (endState importer run)

theorem Untouched.trans {run middle last : ImportRun} (early : Untouched run middle)
    (late : Untouched middle last) : Untouched run last :=
  ⟨late.rows.trans early.rows, late.builders.trans early.builders⟩

theorem Untouched.unowned {run last : ImportRun} {reference : BuilderRef}
    (untouched : Untouched run last) (unowned : Unowned reference run) :
    Unowned reference last := by
  rwa [Unowned, untouched.rows]

section Computations

variable {Value Result : Type} {owners : BuilderRef -> Prop} {importer : Importer Value}
variable {next : Value -> Importer Result} {run : ImportRun}
variable {sqlite : Sqlite} {importId : UInt64} {reference : BuilderRef}
variable {builderClass : BuilderClass} {stack : Bool}

theorem Quiet.bind (first : Quiet importer) (second : forall value, Quiet (next value)) :
    Quiet (importer >>= next) := by
  intro run
  exact endState_bind (first run) fun value _ => (first run).trans (second value _)

theorem quiet_logError (text : String) : Quiet (logError text) :=
  fun _ => ⟨rfl, rfl⟩

theorem quiet_pushBack (reference : BuilderRef) : Quiet (pushBack reference) :=
  fun _ => ⟨rfl, rfl⟩

theorem quiet_popBack : Quiet popBack :=
  fun _ => ⟨rfl, rfl⟩

theorem quiet_back : Quiet back := by
  intro run
  rw [endState, back, get_bind]
  cases run.parseStack.getLast? with
  | none => exact ⟨rfl, rfl⟩
  | some reference => exact ⟨rfl, rfl⟩

theorem quiet_deref (reference : BuilderRef) : Quiet (deref reference) := by
  intro run
  rw [endState, deref, get_bind]
  cases run.builders reference with
  | none => exact ⟨rfl, rfl⟩
  | some builder => exact ⟨rfl, rfl⟩

theorem quiet_typeText (type : SfObjectType) : Quiet (typeText type) := by
  intro run
  cases type <;> exact ⟨rfl, rfl⟩

theorem quiet_checkParentType (found expected : SfObjectType)
    (text : String -> String -> String) : Quiet (checkParentType found expected text) := by
  rw [checkParentType]
  split
  · exact fun _ => ⟨rfl, rfl⟩
  · refine (quiet_typeText found).bind fun foundText => ?_
    exact (quiet_typeText expected).bind fun expectedText => quiet_logError _

theorem quiet_logIfNull (pointer : Option Value) (text : String) :
    Quiet (logIfNull pointer text) := by
  cases pointer with
  | none => exact quiet_logError text
  | some value => exact fun _ => ⟨rfl, rfl⟩

theorem quiet_getObjParent (parent : BuilderRef) (expected : SfObjectType) :
    Quiet (getObjParent parent expected) := by
  refine (quiet_deref parent).bind fun builder => ?_
  refine (quiet_checkParentType _ _ _).bind fun _ => ?_
  refine (quiet_logIfNull _ _).bind fun _ => ?_
  exact (quiet_logIfNull _ _).bind fun _ _ => ⟨rfl, rfl⟩

theorem quiet_leaveNode (position : Position) (popStack : Bool) :
    Quiet (leaveNode position popStack) := by
  cases popStack with
  | false => exact fun _ => ⟨rfl, rfl⟩
  | true => exact quiet_back.bind fun completed => quiet_popBack.bind fun _ _ => ⟨rfl, rfl⟩

theorem Quiet.records (quiet : Quiet importer) (run : ImportRun) :
    Records owners run (endState importer run) := by
  apply records_of_ids (quiet run).rows
  intro row _
  rw [ImportRun.idOf, ImportRun.idOf, (quiet run).builders]

theorem records_bind (first : Records owners run (endState importer run))
    (second : forall value, Records owners (endState importer run)
      (endState (next value) (endState importer run))) :
    Records owners run (endState (importer >>= next) run) :=
  endState_bind first fun value _ => first.trans (second value)

/-- After a quiet computation the rows and the builders are as before. -/
theorem Quiet.records_bind (quiet : Quiet importer)
    (second : forall value middle, Untouched run middle ->
      Records owners middle (endState (next value) middle)) :
    Records owners run (endState (importer >>= next) run) :=
  Catalog.records_bind (quiet.records run) fun value => second value _ (quiet run)

theorem records_changeThrough {set : SfBuilder -> SfBuilder}
    (same : forall builder, (set builder).esoId = builder.esoId) (pointer : Option BuilderRef) :
    Records owners run (endState (changeThrough pointer set) run) := by
  cases pointer with
  | none => exact .refl owners run
  | some reference => exact records_changed same

theorem records_insertFor (assigns : sqlite.Assigns) (unowned : Unowned reference run)
    (made : (run.builders reference).isSome = true) :
    Records (fun other => other = reference) run
      (endState (insertFor sqlite importId reference) run) := by
  rcases inserts_cases sqlite run with ⟨message, refused⟩ | ⟨rowid, inserted⟩
  · rw [endState_of_error (insertFor_of_error refused)]
    exact .refl _ run
  · rw [endState_of_ok (insertFor_of_ok inserted)]
    exact records_withRow assigns inserted unowned made

/-- A builder is made and gets a row. -/
theorem records_new (assigns : sqlite.Assigns) (unowned : Unowned reference run) :
    Records (fun other => other = reference) run
      (endState (insertFor sqlite importId reference)
        (run.begun reference builderClass stack)) := by
  refine (records_begun unowned).trans (records_insertFor assigns unowned ?_)
  simp only [ImportRun.begun, Function.update_self, Option.isSome_some]

theorem records_newParserObject (assigns : sqlite.Assigns) (importId : UInt64)
    (builderClass : BuilderClass) (stack popStack : Bool) (unowned : Unowned reference run) :
    Records (fun other => other = reference) run
      (endState (newParserObject sqlite importId reference builderClass stack popStack) run) := by
  rw [endState, newParserObject_begun, ← endState]
  exact endState_bind (records_new assigns unowned) fun _ _ => records_new assigns unowned

end Computations

/-! ## The visit of a node -/

/-- The builders that are made in the visit of a node. -/
def Own (position : Position) (reference : BuilderRef) : Prop :=
  reference = .node position ∨ reference = .relationship position

section Visits

variable {sqlite : Sqlite} {importId : UInt64} {run : ImportRun} {position : Position}
variable {content : NodeContent} {root : DomNode}

theorem records_onHeader (assigns : sqlite.Assigns) (unowned : Unowned (.node position) run) :
    Records (Own position) run (endState (onHeader sqlite importId position) run) := by
  refine quiet_back.records_bind fun parent first topped => ?_
  refine (quiet_getObjParent parent .sfCatalog).records_bind fun catalog second typed => ?_
  have new := (topped.trans typed).unowned unowned
  have made := records_newParserObject assigns importId .header true false new
  refine records_bind (made.mono fun _ => Or.inl) fun header => ?_
  refine records_bind (records_changeThrough (fun builder => ?_) _) fun _ => .refl _ _
  exact ElementKind.link_id .header header.2 builder

theorem records_onCategory (assigns : sqlite.Assigns) (unowned : Unowned (.node position) run)
    (besides : Unowned (.relationship position) run) :
    Records (Own position) run (endState (onCategory sqlite importId position) run) := by
  refine quiet_back.records_bind fun parent first topped => ?_
  refine (quiet_getObjParent parent .sfCatalog).records_bind fun catalog second typed => ?_
  have untouched := topped.trans typed
  have made :=
    records_newParserObject assigns importId .category true false (untouched.unowned unowned)
  refine records_bind (made.mono fun _ => Or.inl) fun category => ?_
  have apart : BuilderRef.relationship position ≠ .node position := nofun
  have later := made.unowned apart (untouched.unowned besides)
  cases catalog.1 with
  | none => exact .refl _ _
  | some parent =>
      dsimp only
      cases parent.category with
      | some id => exact .refl _ _
      | none =>
          have related :=
            records_newParserObject assigns importId .relationship false category.1 later
          refine records_bind (related.mono fun _ => Or.inr) fun relationship => ?_
          refine records_bind (records_changeThrough (fun builder => ?_) _) fun _ => .refl _ _
          exact ElementKind.link_id .category relationship.2 builder

theorem records_onPart (assigns : sqlite.Assigns) (unowned : Unowned (.node position) run)
    (name : String) (builderClass parentClass : BuilderClass) (expected : SfObjectType)
    {link : UInt64 -> SfBuilder -> SfBuilder}
    (same : forall id builder, (link id builder).esoId = builder.esoId) :
    Records (Own position) run
      (endState (onPart sqlite importId position name builderClass expected parentClass link)
        run) := by
  refine records_bind (records_construct unowned builderClass) fun _ => ?_
  refine quiet_back.records_bind fun parent first topped => ?_
  refine (quiet_deref parent).records_bind fun builder second found => ?_
  refine (quiet_checkParentType _ _ _).records_bind fun _ third checked => ?_
  refine (quiet_pushBack _).records_bind fun _ fourth pushed => ?_
  have untouched := ((topped.trans found).trans checked).trans pushed
  have new : Unowned (.node position) fourth := untouched.unowned unowned
  have made : (fourth.builders (.node position)).isSome = true := by
    rw [untouched.builders]
    change (Function.update run.builders _ _ _).isSome = true
    rw [Function.update_self]
    rfl
  refine records_bind ((records_insertFor assigns new made).mono fun _ => Or.inl) fun id => ?_
  exact records_changeThrough (same id) _

/-- A builder that gets no row. -/
theorem records_pushRelationship (unowned : Unowned (.node position) run) :
    Records (Own position) run (endState (pushRelationship position) run) := by
  change Records _ run (run.begun (.node position) .relationship true)
  exact records_begun unowned

theorem records_enterNode (assigns : sqlite.Assigns) (unowned : Unowned (.node position) run)
    (besides : Unowned (.relationship position) run) :
    Records (Own position) run (endState (enterNode sqlite importId position content) run) := by
  have object (builderClass : BuilderClass) : Records (Own position) run (endState
      (newParserObject sqlite importId (.node position) builderClass true false) run) :=
    (records_newParserObject assigns importId builderClass true false unowned).mono
      fun _ => Or.inl
  rw [enterNode]
  cases content.kind with
  | none => exact .refl _ run
  | some kind =>
      cases kind with
      | catalog => exact records_bind (object .catalog) fun _ => .refl _ _
      | viewTypes => exact records_bind (object .viewTypes) fun _ => .refl _ _
      | header => exact records_onHeader assigns unowned
      | category => exact records_onCategory assigns unowned besides
      | imageSettings =>
          refine records_bind (records_onPart assigns unowned _ _ _ _ fun id builder => ?_)
            fun _ => .refl _ _
          exact ElementKind.link_id .imageSettings id builder
      | internalLocation =>
          refine records_bind (records_onPart assigns unowned _ _ _ _ fun id builder => ?_)
            fun _ => ?_
          · exact ElementKind.link_id .internalLocation id builder
          · cases content.getAttribute.lookup "base-path" with
            | none => exact .refl _ _
            | some path =>
                refine records_bind ?_ fun _ => .refl _ _
                exact records_changed (finishes_setBasePath path).esoId
      | viewType =>
          refine records_bind (records_pushRelationship unowned) fun _ => ?_
          refine records_bind (records_changed (finishes_setDstType .string).esoId) fun _ => ?_
          refine records_bind ?_ fun _ => .refl _ _
          exact records_changed (finishes_setImportId importId).esoId
      | displayName =>
          refine records_bind (records_construct unowned _) fun _ => ?_
          refine records_bind ?_ fun _ => .refl _ _
          exact records_changed (finishes_setImportId importId).esoId
      | variationAttributeId | altPattern | titlePattern | parent =>
          exact records_pushRelationship unowned

/-- The builders of the visits of some nodes. -/
def OwnOf (inside : Position -> Prop) (reference : BuilderRef) : Prop :=
  Exists fun place => inside place ∧ Own place reference

theorem OwnOf.inside {inside : Position -> Prop} {reference : BuilderRef}
    (own : OwnOf inside reference) : inside reference.position := by
  rcases own with ⟨place, inner, rfl | rfl⟩
  · exact inner
  · exact inner

/-- A visit makes rows for the builders of its node, and these had none before. -/
theorem local_fromXml (assigns : sqlite.Assigns) (importId : UInt64) :
    Local (enterNode sqlite importId) leaveNode (fun inside => Records (OwnOf inside))
      fun place run => Unowned (.node place) run ∧ Unowned (.relationship place) run where
  refl := fun inside run => .refl _ run
  trans := fun inside first middle last early late => early.trans late
  mono := by
    rintro inside wider first last within records
    apply records.mono
    rintro reference ⟨place, inner, own⟩
    exact ⟨place, within place inner, own⟩
  free := by
    rintro inside first last place records outside ⟨node, relationship⟩
    exact ⟨records.unowned (fun own => outside own.inside) node,
      records.unowned (fun own => outside own.inside) relationship⟩
  enter := fun position content run free =>
    (records_enterNode assigns free.1 free.2).mono fun reference own => ⟨position, rfl, own⟩
  leave := fun position popStack run => (quiet_leaveNode position popStack).records run

/-! ## The tree walk -/

theorem records_walkObject (assigns : sqlite.Assigns) {reference : BuilderRef}
    (unowned : Unowned reference run) (builderClass : BuilderClass) :
    Records (fun other => other = reference) run
      (endState (walkObject sqlite importId reference builderClass) run) := by
  refine records_bind (records_construct unowned builderClass) fun _ => ?_
  refine records_bind (records_insertFor assigns unowned ?_) fun _ => .refl _ _
  change (Function.update run.builders reference _ reference).isSome = true
  rw [Function.update_self]
  rfl

theorem records_walkNode (assigns : sqlite.Assigns) (importId : UInt64) (content : NodeContent)
    (unowned : Unowned (.walk position) run) :
    Records (fun other => other = .walk position) run
      (endState (walkNode sqlite importId position content) run) := by
  rw [walkNode]
  cases content.walkKind with
  | none => exact .refl _ run
  | some kind =>
      cases kind with
      | catalog | header =>
          refine (quiet_pushBack _).records_bind fun _ middle pushed => ?_
          exact records_walkObject assigns (pushed.unowned unowned) _
      | category | imageSettings | internalLocation | viewTypes =>
          exact records_walkObject assigns unowned _
      | viewType =>
          refine records_bind (records_construct unowned _) fun _ => ?_
          refine records_bind (records_changed (finishes_setDstType .string).esoId) fun _ => ?_
          exact records_changed (finishes_setImportId importId).esoId
      | displayName =>
          refine records_bind (records_construct unowned _) fun _ => ?_
          exact records_changed (finishes_setImportId importId).esoId
      | variationAttributeId | altPattern | titlePattern | parent => exact .refl _ run

/-- Every node of the walk has a place of its own. -/
theorem records_walkNodes (assigns : sqlite.Assigns) {entries : List (Position × NodeContent)}
    (nodup : (entries.map Prod.fst).Nodup)
    (unowned : forall entry, entry ∈ entries -> Unowned (.walk entry.1) run) :
    Records (fun other => Exists fun place => other = .walk place) run
      (endState (walkNodes sqlite importId entries) run) := by
  induction entries generalizing run with
  | nil => exact .refl _ run
  | cons entry entries inductionHypothesis =>
      rcases List.nodup_cons.mp nodup with ⟨alone, rest⟩
      have own := records_walkNode assigns importId entry.2 (unowned entry List.mem_cons_self)
      refine records_bind (own.mono fun _ same => ⟨entry.1, same⟩) fun _ => ?_
      apply inductionHypothesis rest
      intro other member
      apply own.unowned ?_ (unowned other (List.mem_cons_of_mem _ member))
      intro same
      exact alone (List.mem_map.mpr ⟨other, member, BuilderRef.walk.inj same⟩)

/-! ## Whole imports -/

theorem recorded_start : Recorded .start where
  positive := fun _ member => nomatch member
  distinct := List.nodup_nil
  kept := fun _ member => nomatch member

theorem unowned_start (reference : BuilderRef) : Unowned reference .start :=
  fun _ member => nomatch member

theorem recorded_splitDocument (assigns : sqlite.Assigns) (importId : UInt64) (root : DomNode) :
    Recorded (endState (splitDocument sqlite importId root) .start) := by
  have visited := (local_fromXml assigns importId).traverseTree root [] .start
    fun _ _ => ⟨unowned_start _, unowned_start _⟩
  have recorded := visited.recorded recorded_start
  refine endState_bind recorded fun returned _ => ?_
  refine (records_walkNodes assigns (RoseTree.nodup_preorder root) fun entry _ => ?_).recorded
    recorded
  refine visited.unowned ?_ (unowned_start _)
  rintro ⟨place, _, other | other⟩
  · cases other
  · cases other

/-- Whether something is thrown or not, the rows and the builders are those of the `try` block. -/
theorem endOf_sfCatalogSplit2 (sqlite : Sqlite) (importId : UInt64) (root : DomNode) :
    endOf (sfCatalogSplit2 sqlite importId root) =
      endState (splitDocument sqlite importId root) .start := by
  rw [endOf, sfCatalogSplit2, endState]
  cases splitDocument sqlite importId root .start with
  | ok value last => rfl
  | error fault last =>
      by_cases thrown : fault.Thrown = true
      · simp only [if_pos thrown]
      · simp only [if_neg thrown]

/-- What `insert_new_object` returns for the row that it has inserted. -/
theorem insertNewObject_returns_iff (assigns : sqlite.Assigns) (reference : BuilderRef)
    {rowid : Int64} (inserted : sqlite.insert (run.rows.map ObjectRow.rowid) = .ok rowid) :
    (Exists fun next => insertNewObject sqlite reference run = .ok rowid next) <->
      rowid.toInt ≤ Int32.maxValue.toInt := by
  have returned : insertNewObject sqlite reference run =
      .ok rowid.toInt32.toInt64 { run with rows := run.rows ++ [⟨rowid, reference⟩] } := by
    rw [insertNewObject, get_bind, inserted]
    rfl
  rw [returned, ← toInt32_eq_iff (assigns.positive _ _ inserted)]
  constructor
  · rintro ⟨next, same⟩
    exact (EStateM.Result.ok.inj same).1
  · intro same
    exact ⟨_, congrArg (fun id => EStateM.Result.ok id _) same⟩

/-- Where the ids survive: the row ids that SQLite assigns are below 2^31. -/
theorem ids_survive_iff (sqlite : Sqlite) (assigns : sqlite.Assigns) :
    (forall reference run rowid, sqlite.insert (run.rows.map ObjectRow.rowid) = .ok rowid ->
      ((Exists fun next => insertNewObject sqlite reference run = .ok rowid next) <->
        rowid.toInt ≤ Int32.maxValue.toInt)) ∧
    forall importId root asked,
      IdsSurvive asked (endOf (sfCatalogSplit2 sqlite importId root)) <->
        forall row, row ∈ (endOf (sfCatalogSplit2 sqlite importId root)).rows ->
          asked row.builder -> row.rowid.toInt ≤ Int32.maxValue.toInt := by
  constructor
  · exact fun reference run rowid inserted =>
      insertNewObject_returns_iff assigns reference inserted
  · intro importId root asked
    rw [endOf_sfCatalogSplit2]
    exact (recorded_splitDocument assigns importId root).survive_iff asked

end Visits

/-! ## A database -/

/-- The largest id in the table or among the new rows. -/
def largestId (largest : Nat) (rows : List Int64) : Nat :=
  rows.foldl (fun found rowid => max found rowid.toInt.toNat) largest

/-- A table that goes on from the largest id that it has. -/
def continuing (largest : Nat) : Sqlite where
  insert := fun rows =>
    if largestId largest rows < Int64.maxValue.toNatClampNeg then
      .ok (.ofNat (largestId largest rows + 1))
    else .error "database or disk is full"

theorem le_largestId (largest : Nat) (rows : List Int64) :
    largest ≤ largestId largest rows ∧
      forall rowid, rowid ∈ rows -> rowid.toInt.toNat ≤ largestId largest rows := by
  induction rows generalizing largest with
  | nil => exact ⟨Nat.le_refl largest, fun _ member => nomatch member⟩
  | cons rowid rows inductionHypothesis =>
      rcases inductionHypothesis (max largest rowid.toInt.toNat) with ⟨first, rest⟩
      refine ⟨Nat.le_trans (Nat.le_max_left _ _) first, fun other member => ?_⟩
      rcases List.mem_cons.mp member with rfl | later
      · exact Nat.le_trans (Nat.le_max_right _ _) first
      · exact rest other later

theorem continuing_assigns (largest : Nat) : (continuing largest).Assigns := by
  have next : forall rows rowid, (continuing largest).insert rows = .ok rowid ->
      rowid.toInt = largestId largest rows + 1 := by
    intro rows rowid inserted
    by_cases room : largestId largest rows < Int64.maxValue.toNatClampNeg
    · simp only [continuing, if_pos room] at inserted
      cases inserted
      exact Int64.toInt_ofNat_of_lt (Nat.succ_lt_succ room)
    · simp only [continuing, if_neg room] at inserted
      cases inserted
  constructor
  · intro rows rowid inserted
    rw [next rows rowid inserted]
    omega
  · intro rows rowid inserted member
    have small := (le_largestId largest rows).2 rowid member
    rw [next rows rowid inserted] at small
    omega

/-- An import into a table that has 41 rows. -/
theorem ids_survive_smallCatalog :
    IdsSurvive (fun _ => True) (endOf (sfCatalogSplit2 (continuing 41) 7 smallCatalog)) := by
  have small : forall row, row ∈ (endOf (sfCatalogSplit2 (continuing 41) 7 smallCatalog)).rows ->
      row.rowid.toInt ≤ Int32.maxValue.toInt := by
    decide +kernel
  exact ((ids_survive_iff (continuing 41) (continuing_assigns 41)).2 7 smallCatalog _).mpr
    fun row member _ => small row member

/-- The row with the id 2^31 is not the one that its builder names. -/
theorem largeId_not_survive : ¬forall sqlite : Sqlite, sqlite.Assigns ->
    (forall reference run rowid, sqlite.insert (run.rows.map ObjectRow.rowid) = .ok rowid ->
      Exists fun next => insertNewObject sqlite reference run = .ok rowid next) ∧
    forall importId root asked,
      IdsSurvive asked (endOf (sfCatalogSplit2 sqlite importId root)) := by
  intro always
  have survive := (always (continuing 2147483647) (continuing_assigns _)).2 7
    (plainElement "catalog" []) fun _ => True
  have member : ⟨2147483648, .node []⟩ ∈ (endOf
      (sfCatalogSplit2 (continuing 2147483647) 7 (plainElement "catalog" []))).rows := by
    decide +kernel
  have given : (endOf (sfCatalogSplit2 (continuing 2147483647) 7
      (plainElement "catalog" []))).idOf (.node []) = some 18446744071562067968 := by
    decide +kernel
  rcases survive.named _ member trivial with ⟨id, same, names⟩
  cases given.symm.trans same
  cases names

end Catalog

end EasyProspect
