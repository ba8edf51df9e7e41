import EasyProspect.EndpointSpecs
import EasyProspect.Library.LastValue

namespace EasyProspect

/-!
# The order of the options of a listener

The loop over the tokens assigns, so that for each key the last token that has it counts, and a
token without a known key does nothing.  What is returned is a matter of these last tokens alone.
-/

namespace EndpointSpecs

open LastValue (lastOf Exclusive Padded)

/-- The first `=` of a token stands between the two texts. -/
structure Splits (a n v : String) : Prop where
  key : '=' ∉ n.toList
  text : a = field n v

/-- The value is that of the last token with the key, or empty if there is none. -/
def LastWins (args : List String) (key value : String) : Prop :=
  (Exists fun before => Exists fun a => Exists fun after =>
    args = before ++ a :: after ∧ Splits a key value ∧
      forall later, later ∈ after -> forall v, ¬Splits later key v) ∨
  value = "" ∧ forall a, a ∈ args -> forall v, ¬Splits a key v

/-- No two tokens have the same key. -/
def DistinctKeys (args : List String) : Prop :=
  args.Pairwise fun a b => forall n v w, Splits a n v -> ¬Splits b n w

/-- A token with a key that is not known, or without `=`. -/
def Ignored (a : String) : Prop :=
  forall n v, Splits a n v -> n ∉ listenerGetters.map Prod.fst

/-- For each key the last value wins; neither tokens that change places nor tokens that are added
make a difference. -/
structure OrderInsensitive (args : List String) (conf : ListenerConf) : Prop where
  last : forall key get, (key, get) ∈ listenerGetters -> LastWins args key (get conf)
  permuted : forall before block shuffled after, args = before ++ block ++ after ->
    DistinctKeys block -> block.Perm shuffled ->
      listenerFormat.parseTokens (before ++ shuffled ++ after) = .ok conf
  padded : forall more, Padded Ignored args more -> listenerFormat.parseTokens more = .ok conf

variable {args more : List String} {a n v key value : String}

/-! ## The tokens with a key -/

theorem keyValue_eq_some_iff : keyValue a = some (n, v) <-> Splits a n v := by
  constructor
  · intro found
    refine ⟨?_, keyValue_text found⟩
    rw [keyValue] at found
    split at found
    · cases found
    · cases found
      intro member
      rw [String.toList_ofList] at member
      have every := List.all_eq_true.mp List.all_takeWhile _ member
      exact of_decide_eq_true every rfl
  · rintro ⟨noEquals, rfl⟩
    exact keyValue_field noEquals v

theorem valueOf_eq_some_iff : valueOf key a = some value <-> Splits a key value := by
  rw [← keyValue_eq_some_iff, valueOf]
  constructor
  · intro gives
    rcases Option.bind_eq_some_iff.mp gives with ⟨⟨n, v⟩, split, chosen⟩
    rcases Option.ite_none_right_eq_some.mp chosen with ⟨same, given⟩
    cases same
    cases given
    exact split
  · intro split
    rw [split, Option.bind_some, if_pos rfl]

theorem valueOf_eq_none_iff : valueOf key a = none <-> forall v, ¬Splits a key v := by
  simp only [Option.eq_none_iff_forall_ne_some, ne_eq, valueOf_eq_some_iff]

theorem lastWins_lastValue (key : String) (args : List String) :
    LastWins args key ((lastValue key args).getD "") := by
  change LastWins args key ((lastOf (valueOf key) args).getD "")
  cases last : lastOf (valueOf key) args with
  | none =>
      refine Or.inr ⟨rfl, fun a member => ?_⟩
      exact valueOf_eq_none_iff.mp (LastValue.lastOf_eq_none_iff.mp last a member)
  | some value =>
      rcases LastValue.lastOf_eq_some_iff.mp last with ⟨before, a, after, whole, gives, silent⟩
      refine Or.inl ⟨before, a, after, whole, valueOf_eq_some_iff.mp gives, fun later member => ?_⟩
      exact valueOf_eq_none_iff.mp (silent later member)

theorem DistinctKeys.exclusive (distinct : DistinctKeys args) (key : String) :
    Exclusive (valueOf key) args := by
  refine distinct.imp fun {a b} apart => ?_
  cases gives : valueOf key a with
  | none => exact Or.inl rfl
  | some value =>
      apply Or.inr
      apply valueOf_eq_none_iff.mpr
      intro v
      exact apart key value v (valueOf_eq_some_iff.mp gives)

theorem Ignored.silent (ignored : Ignored a) (known : key ∈ listenerGetters.map Prod.fst) :
    valueOf key a = none :=
  valueOf_eq_none_iff.mpr fun v split => ignored key v split known

/-! ## The configuration -/

/-- A configuration is determined by its settings. -/
theorem conf_eq_of_getters {left right : ListenerConf}
    (same : forall key get, (key, get) ∈ listenerGetters -> get left = get right) :
    left = right := by
  have name := same _ _ (.head _)
  have address := same _ _ (.tail _ (.head _))
  have port := same _ _ (.tail _ (.tail _ (.head _)))
  have minPort := same _ _ (.tail _ (.tail _ (.tail _ (.head _))))
  have maxPort := same _ _ (.tail _ (.tail _ (.tail _ (.tail _ (.head _)))))
  have kind := same _ _ (.tail _ (.tail _ (.tail _ (.tail _ (.tail _ (.head _))))))
  rcases left with ⟨_, _, _, _, _, _⟩
  rcases right with ⟨_, _, _, _, _, _⟩
  cases name
  cases address
  cases port
  cases minPort
  cases maxPort
  cases kind
  rfl

/-- Only the last values count. -/
theorem foldl_eq_of_lastValue (same : forall key, key ∈ listenerGetters.map Prod.fst ->
      lastValue key more = lastValue key args) :
    more.foldl listenerFormat.assign listenerFormat.unset =
      args.foldl listenerFormat.assign listenerFormat.unset := by
  apply conf_eq_of_getters
  intro key get listed
  have reads := listener_reads listed
  rw [reads.foldl, reads.foldl, same key (List.mem_map.mpr ⟨_, listed, rfl⟩)]

/-- What the token loop makes of three tokens or more. -/
theorem last_value_wins (args : List String) (enough : 3 ≤ args.length) :
    Exists fun conf => listenerFormat.parseTokens args = .ok conf ∧
      OrderInsensitive args conf := by
  refine ⟨_, listenerFormat.parseTokens_enough enough, ?_, ?_, ?_⟩
  · intro key get listed
    have unset : get listenerFormat.unset = "" := by
      fin_cases listed <;> rfl
    rw [(listener_reads listed).foldl, unset]
    exact lastWins_lastValue key args
  · rintro before block shuffled after rfl distinct perm
    have length : (before ++ shuffled ++ after).length = (before ++ block ++ after).length :=
      ((perm.symm.append_left before).append_right after).length_eq
    rw [listenerFormat.parseTokens_enough (length ▸ enough)]
    apply congrArg Except.ok
    apply foldl_eq_of_lastValue
    intro key _
    exact (distinct.exclusive key).lastOf_perm perm before after
  · intro more padded
    rw [listenerFormat.parseTokens_enough (enough.trans padded.length_le)]
    apply congrArg Except.ok
    apply foldl_eq_of_lastValue
    intro key known
    exact padded.lastOf_eq fun a ignored => ignored.silent known

example : listenerFormat.parseTokens ["port=80", "name=a=b", "address=::1", "port=81"] =
    .ok ⟨"a=b", "::1", "81", "", "", ""⟩ := by
  decide +kernel

/-- A name with `=` in it, and a port that is given twice. -/
theorem last_port_wins : Exists fun conf =>
    listenerFormat.parseTokens ["port=80", "name=a=b", "address=::1", "port=81"] = .ok conf ∧
      OrderInsensitive ["port=80", "name=a=b", "address=::1", "port=81"] conf :=
  last_value_wins ["port=80", "name=a=b", "address=::1", "port=81"] (by decide)

end EndpointSpecs

end EasyProspect
