import ContentQuery.Proofs.Splitting
import ContentQuery.Proofs.Visibility

/-!
# ContentQuery.Proofs.Extension

What one more condition at the end of a query does to the documents that a search returns. Added by
"and" it keeps those that it holds for. Added by "or" it brings those that it holds for, but it also
loses those that it cannot be compared with.
-/

namespace ContentQuery

/-! ## One more condition -/

namespace Query

variable {index : Nat} {raw : Text} {parts more : List Text} {cond : Condition}
  {rest later : List (Connective × Condition)}

/-- Where a part stands plays no part in whether it is read as a condition. -/
theorem parseCondition_eq_ok_iff : parseCondition index raw = .ok cond ↔
    raw.trim ≠ [] ∧ Connective.ofWord? raw.trim = none ∧ Condition.parse raw.trim = .ok cond := by
  unfold parseCondition
  by_cases hempty : raw.trim = []
  · simp [hempty]
  · cases hword : Connective.ofWord? raw.trim with
    | some connective => simp [hempty, hword]
    | none =>
        cases hparse : Condition.parse raw.trim <;> simp [hempty, hword, hparse, Except.mapError]

theorem parse_eq_some_iff {query : Query} : parse parts = .ok (some query) ↔
    ∃ raw others first rest, parts = raw :: others ∧ parseCondition 0 raw = .ok first ∧
      parseRest 1 others = .ok rest ∧ query = chain first rest := by
  cases parts with
  | nil =>
      constructor
      · exact fun h => absurd (Except.ok.inj h) nofun
      · rintro ⟨raw, others, first, rest, h, -⟩
        contradiction
  | cons raw others =>
      rw [parse]
      simp only [bind_eq_ok_iff]
      constructor
      · rintro ⟨first, hfirst, rest, hrest, h⟩
        exact ⟨raw, others, first, rest, rfl, hfirst, hrest,
          (Option.some.inj (Except.ok.inj h)).symm⟩
      · rintro ⟨raw', others', first, rest, hparts, hfirst, hrest, rfl⟩
        obtain ⟨rfl, rfl⟩ := List.cons.inj hparts
        exact ⟨first, hfirst, rest, hrest, rfl⟩

/-- Parts that can be read stay what they are when more parts follow. -/
theorem parseRest_append (h : parseRest index parts = .ok rest)
    (hmore : parseRest (index + parts.length) more = .ok later) :
    parseRest index (parts ++ more) = .ok (rest ++ later) := by
  fun_induction parseRest index parts generalizing rest with
  | case1 =>
      rw [← Except.ok.inj h]
      exact hmore
  | case2 index raw =>
      obtain ⟨connective, -, h⟩ := bind_eq_ok_iff.mp h
      contradiction
  | case3 index raw next parts ih =>
      obtain ⟨connective, hconnective, h⟩ := bind_eq_ok_iff.mp h
      obtain ⟨condition, hcondition, h⟩ := bind_eq_ok_iff.mp h
      obtain ⟨others, hothers, h⟩ := bind_eq_ok_iff.mp h
      rw [← Except.ok.inj h]
      have hlater := ih hothers (by
        rw [List.length_cons, List.length_cons] at hmore
        rwa [Nat.add_assoc, Nat.add_comm 2])
      rw [List.cons_append, List.cons_append, parseRest, hconnective, hcondition, hlater]
      rfl

/-- A query that is read from parts is read with one more condition from these parts, a connective
and the condition. -/
theorem parse_append {query last : Query} (hquery : parse parts = .ok (some query))
    (hlast : parse [raw] = .ok (some last)) :
    ∃ first rest cond, query = chain first rest ∧ last = chain cond [] ∧
      ∀ connective : Connective, parse (parts ++ [connective.word, raw]) =
        .ok (some (chain first (rest ++ [(connective, cond)]))) := by
  obtain ⟨head, others, first, rest, rfl, hfirst, hrest, rfl⟩ := parse_eq_some_iff.mp hquery
  obtain ⟨raw', none, cond, nothing, hparts, hcond, hnothing, rfl⟩ := parse_eq_some_iff.mp hlast
  obtain ⟨rfl, rfl⟩ := List.cons.inj hparts
  obtain rfl := Except.ok.inj hnothing
  refine ⟨first, rest, cond, rfl, rfl, fun connective => parse_eq_some_iff.mpr
    ⟨head, _, first, _, rfl, hfirst, parseRest_append hrest ?_, rfl⟩⟩
  rw [parseRest, Expression.parseConnective_word,
    parseCondition_eq_ok_iff.mpr (parseCondition_eq_ok_iff.mp hcond)]
  rfl

/-! ### Evaluation -/

theorem evaluateFrom_append (content : Content) (b : Bool) :
    evaluateFrom content b (rest ++ later) =
      evaluateFrom content b rest >>= fun joined => evaluateFrom content joined later := by
  induction rest generalizing b with
  | nil => rfl
  | cons link rest ih =>
      obtain ⟨connective, cond⟩ := link
      rw [List.cons_append, evaluateFrom, evaluateFrom, bind_assoc]
      exact bind_congr fun next => ih (connective.join b next)

theorem evaluate_chain (first : Condition) (content : Content) :
    (chain first rest).evaluate content =
      first.evaluate content >>= fun b => evaluateFrom content b rest := by
  have hzip : (rest.map (·.1)).zip (rest.map (·.2)) = rest := by
    rw [← List.unzip_fst, ← List.unzip_snd, List.zip_unzip]
  change (first.evaluate content >>= fun b =>
    evaluateFrom content b ((rest.map (·.1)).zip (rest.map (·.2)))) = _
  rw [hzip]

end Query

/-- A query with one more condition is evaluated by evaluating the query, then the condition, and
joining the two. -/
theorem matchesQuery_append [Limits] (payload : Payload) (first cond : Condition)
    (rest : List (Connective × Condition)) (connective : Connective) :
    matchesQuery payload (some (Query.chain first (rest ++ [(connective, cond)]))) = (do
      let before ← matchesQuery payload (some (Query.chain first rest))
      let last ← matchesQuery payload (some (Query.chain cond []))
      return connective.join before last) := by
  have hempty (first : Condition) (rest : List (Connective × Condition)) :
      (Query.chain first rest).isEmpty = false := rfl
  simp only [matchesQuery, hempty, Bool.false_eq_true, if_false]
  cases Content.ofPayload payload with
  | error cause => rfl
  | ok content =>
      simp only [Query.evaluate_chain, Query.evaluateFrom_append, bind_assoc]
      refine bind_congr fun b => bind_congr fun before => ?_
      simp only [Query.evaluateFrom]
      exact bind_congr fun last => rfl

/-! ## What a search returns -/

namespace Search

variable {first cond : Condition} {rest : List (Connective × Condition)} {d : Document}

theorem passes_eq_true_iff [Limits] {query : Option Query} :
    passes query d = true ↔ matchesQuery d.content query = .ok true := by
  unfold passes
  split
  · next b h => simp [h]
  · next e h => simp [h]

theorem passes_append_and [Limits] :
    passes (some (Query.chain first (rest ++ [(.and, cond)]))) d =
      (passes (some (Query.chain cond [])) d && passes (some (Query.chain first rest)) d) := by
  rw [Bool.eq_iff_iff, Bool.and_eq_true]
  simp only [passes_eq_true_iff, matchesQuery_append, bind_eq_ok_iff]
  constructor
  · rintro ⟨before, hbefore, last, hlast, h⟩
    obtain ⟨rfl, rfl⟩ := (Bool.and_eq_true before last).mp (Except.ok.inj h)
    exact ⟨hlast, hbefore⟩
  · rintro ⟨hlast, hbefore⟩
    exact ⟨true, hbefore, true, hlast, rfl⟩

theorem passes_append_or_iff [Limits] :
    passes (some (Query.chain first (rest ++ [(.or, cond)]))) d = true ↔
      (∃ before, matchesQuery d.content (some (Query.chain first rest)) = .ok before) ∧
      (∃ last, matchesQuery d.content (some (Query.chain cond [])) = .ok last) ∧
      (passes (some (Query.chain first rest)) d = true ∨
        passes (some (Query.chain cond [])) d = true) := by
  simp only [passes_eq_true_iff, matchesQuery_append, bind_eq_ok_iff]
  constructor
  · rintro ⟨before, hbefore, last, hlast, h⟩
    refine ⟨⟨before, hbefore⟩, ⟨last, hlast⟩, ?_⟩
    rcases (Bool.or_eq_true before last).mp (Except.ok.inj h) with rfl | rfl
    · exact .inl hbefore
    · exact .inr hlast
  · rintro ⟨⟨before, hbefore⟩, ⟨last, hlast⟩, h⟩
    refine ⟨before, hbefore, last, hlast, congrArg Except.ok ?_⟩
    rcases h with h | h
    · rw [Except.ok.inj (hbefore.symm.trans h)]
      exact Bool.true_or last
    · rw [Except.ok.inj (hlast.symm.trans h)]
      exact Bool.or_true before

theorem breakdown?_eq_none_of_append [Limits] (connective : Connective)
    (hbefore : breakdown? (some (Query.chain first rest)) d = none)
    (hlast : breakdown? (some (Query.chain cond [])) d = none) :
    breakdown? (some (Query.chain first (rest ++ [(connective, cond)]))) d = none := by
  rw [Option.eq_none_iff_forall_ne_some] at hbefore hlast ⊢
  simp only [ne_eq, breakdown?_eq_some_iff] at hbefore hlast ⊢
  intro cause h
  rw [matchesQuery_append] at h
  rcases bind_eq_error_iff.mp h with h | ⟨_, -, h⟩
  · exact hbefore cause h
  · rcases bind_eq_error_iff.mp h with h | ⟨_, -, h⟩
    · exact hlast cause h
    · contradiction

variable {store : Store} {request : SearchRequest} {p : Plan}

theorem mem_arranged_iff [Limits] {user : Text} :
    d ∈ arranged store user p ↔ d ∈ seen store user p.scope ∧ passes p.query d = true := by
  rw [arranged, Sorting.sort, List.mem_mergeSort, List.mem_filter]

/-- A request that has been read can be read with any query in the place of its own. -/
theorem lists_with_parts_iff [Limits] (hstore : IsCoherent store) (hplan : plan request = .ok p)
    {parts : List Text} {query : Option Query} (hparts : Query.parse parts = .ok query)
    (listing : List Document) : Lists store { request with parts } 1 listing ↔
      (∀ d ∈ seen store request.user p.scope, breakdown? query d = none) ∧
        listing = arranged store request.user { p with query } := by
  obtain ⟨-, hscope, hsorting, hpage⟩ := (plan_eq_ok_iff request p).mp hplan
  have hplanned : plan { request with parts } = .ok { p with query } :=
    (plan_eq_ok_iff _ _).mpr ⟨hparts, hscope, hsorting, hpage⟩
  exact lists_one_iff hstore hplanned listing

end Search

/-- The request with one more condition behind its query. -/
def SearchRequest.extend (request : SearchRequest) (connective : Connective) (raw : Text) :
    SearchRequest :=
  { request with parts := request.parts ++ [connective.word, raw] }

namespace Search

/-- Wherever the searches for a query and for one more condition return, the searches for the query
extended by the condition return too. Extended by "and" it has the documents that both have, in
their order, and so no others than the query. Extended by "or" it has, of the documents that one of
them has, those for which both have a truth value; what it loses of the documents of the query are
those for which the condition fails. -/
theorem extension_listings [Limits] (documents : List Document) (shares : List (Text × List Text))
    (request : SearchRequest) (raw : Text) {query last : Query}
    (hquery : Query.parse request.parts = .ok (some query))
    (hlast : Query.parse [raw] = .ok (some last)) :
    let store := (MemoryStore.ofLists documents shares).toStore
    ∀ matched alone, Lists store request 1 matched →
      Lists store { request with parts := [raw] } 1 alone →
      (∃ both, (∀ listing, Lists store (request.extend .and raw) 1 listing ↔ listing = both) ∧
        both.Sublist matched ∧ ∀ d, d ∈ both ↔ d ∈ matched ∧ d ∈ alone) ∧
      ∃ either, (∀ listing, Lists store (request.extend .or raw) 1 listing ↔ listing = either) ∧
        (∀ d, d ∈ either ↔ (∃ b, matchesQuery d.content (some query) = .ok b) ∧
          (∃ b, matchesQuery d.content (some last) = .ok b) ∧ (d ∈ matched ∨ d ∈ alone)) ∧
        ∀ d ∈ matched, d ∉ either →
          ∃ condition cause,
            matchesQuery d.content (some last) = .error (.failed condition cause) := by
  intro store matched alone hmatched halone
  have hstore : IsCoherent store := isCoherent_toStore _
  obtain ⟨p, hplan⟩ := exists_plan_of_lists hmatched
  obtain ⟨first, rest, cond, rfl, rfl, hextended⟩ := Query.parse_append hquery hlast
  obtain ⟨hreturns, rfl⟩ := (lists_with_parts_iff hstore hplan hquery matched).mp hmatched
  obtain ⟨hreturnsAlone, rfl⟩ := (lists_with_parts_iff hstore hplan hlast alone).mp halone
  have hlists (connective : Connective) (listing : List Document) :
      Lists store (request.extend connective raw) 1 listing ↔ listing = arranged store request.user
        { p with query := some (Query.chain first (rest ++ [(connective, cond)])) } := by
    rw [SearchRequest.extend, lists_with_parts_iff hstore hplan (hextended connective)]
    exact and_iff_right fun d hd =>
      breakdown?_eq_none_of_append connective (hreturns d hd) (hreturnsAlone d hd)
  refine ⟨⟨_, hlists .and, ?_, fun d => ?_⟩, _, hlists .or, fun d => ?_, fun d hd hlost => ?_⟩
  · have hpasses : passes (some (Query.chain first (rest ++ [(.and, cond)]))) = fun d =>
        passes (some (Query.chain cond [])) d && passes (some (Query.chain first rest)) d :=
      funext fun _ => passes_append_and
    rw [arranged, arranged, hpasses, ← List.filter_filter, Sorting.sort_filter]
    exact List.filter_sublist
  · simp only [mem_arranged_iff, passes_append_and, Bool.and_eq_true]
    constructor
    · rintro ⟨hseen, hcond, hquery⟩
      exact ⟨⟨hseen, hquery⟩, hseen, hcond⟩
    · rintro ⟨⟨hseen, hquery⟩, -, hcond⟩
      exact ⟨hseen, hcond, hquery⟩
  · simp only [mem_arranged_iff, passes_append_or_iff, ← and_or_left]
    exact and_left_comm.trans (and_congr_right fun _ => and_left_comm)
  · obtain ⟨hseen, hpasses⟩ := mem_arranged_iff.mp hd
    cases hresult : matchesQuery d.content (some (Query.chain cond [])) with
    | ok b =>
        exact absurd ⟨hseen, passes_append_or_iff.mpr
          ⟨⟨true, passes_eq_true_iff.mp hpasses⟩, ⟨b, hresult⟩, .inl hpasses⟩⟩
          (mem_arranged_iff.not.mp hlost)
    | error e =>
        cases e with
        | failed condition cause => exact ⟨condition, cause, rfl⟩
        | broken cause =>
            have hreturned := hreturnsAlone d hseen
            rw [breakdown?_eq_some_iff.mpr hresult] at hreturned
            contradiction

/-! ### Three documents -/

namespace Extension

/-- A document that has nothing but the field of the first condition. -/
def partly : Document := Sample.document "a" "alice" (Sample.object "n" "x")

/-- A document for which both conditions hold. -/
def fully : Document :=
  Sample.document "b" "alice" (.json (.object [("n", .string "x"), ("m", .string "x")]))

/-- A document for which only the second condition holds. -/
def otherwise : Document :=
  Sample.document "c" "alice" (.json (.object [("n", .string "y"), ("m", .string "x")]))

/-- A store that holds the three. -/
def store : Store := (MemoryStore.ofLists [partly, fully, otherwise] []).toStore

/-- A search for one condition, which a field meets if its value is `x`. -/
def request (field : String) : SearchRequest :=
  Sample.request "alice" "all" (Text.ofString (field ++ " equals x"))

/-- What this search is read as. -/
def query (field : String) : Query :=
  Query.chain ⟨field, ⟨.equals, false⟩, .string "x", Text.ofString (field ++ " equals x")⟩ []

theorem lists_of_matching [Limits] {field : String} {listing : List Document}
    (hread : Query.parse (request field).parts = .ok (some (query field)))
    (hreturns : [partly, fully, otherwise].all fun d =>
      (breakdown? (some (query field)) d).isNone)
    (hmatching : [partly, fully, otherwise].filter (passes (some (query field))) = listing) :
    Lists store (request field) 1 listing := by
  have hplan : plan (request field) =
      .ok ⟨some (query field), .all, ⟨.created, .ascending⟩, .ofRequest 1 20⟩ :=
    (plan_eq_ok_iff _ _).mpr ⟨hread, rfl, rfl, rfl⟩
  have hnone (d : Document) (hd : d ∈ [partly, fully, otherwise]) :
      breakdown? (some (query field)) d = none :=
    Option.isNone_iff_eq_none.mp (List.all_eq_true.mp hreturns d hd)
  refine (lists_one_iff (isCoherent_toStore _) hplan listing).mpr ⟨hnone, ?_⟩
  have harranges : (Sorting.mk .created .ascending).Arranges listing listing := by
    refine ⟨?_, fun _ => rfl⟩
    rw [← hmatching]
    exact List.Pairwise.filter _ (by decide)
  exact harranges.unique (hmatching ▸ Sorting.arranges_sort _ _)

end Extension

open Extension in
/-- Of the two documents that one condition holds for, the other condition loses one, by "and" and
by "or", because it cannot be compared with it. -/
theorem extension_listings_of_three :
    Lists store (request "n") 1 [partly, fully] ∧
    Lists store (request "m") 1 [fully, otherwise] ∧
    (∃ both, Lists store ((request "n").extend .and "m equals x") 1 both ∧
      partly ∉ both ∧ fully ∈ both) ∧
    ∃ either, Lists store ((request "n").extend .or "m equals x") 1 either ∧
      partly ∉ either ∧ otherwise ∈ either := by
  have hmatched : Lists store (request "n") 1 [partly, fully] := lists_of_matching rfl rfl rfl
  have halone : Lists store (request "m") 1 [fully, otherwise] := lists_of_matching rfl rfl rfl
  have hquery : Query.parse (request "n").parts = .ok (some (query "n")) := rfl
  have hlast : Query.parse ["m equals x"] = .ok (some (query "m")) := rfl
  obtain ⟨⟨both, hand, -, hboth⟩, either, hor, heither, -⟩ :=
    extension_listings [partly, fully, otherwise] [] (request "n") "m equals x" hquery hlast _ _
      hmatched halone
  have hpartly : partly ∉ [fully, otherwise] := fun h =>
    absurd (List.mem_map_of_mem (f := Document.id) h) (by decide)
  refine ⟨hmatched, halone, ⟨both, (hand both).mpr rfl, ?_, ?_⟩,
    either, (hor either).mpr rfl, ?_, ?_⟩
  · exact fun h => hpartly ((hboth partly).mp h).2
  · exact (hboth fully).mpr ⟨by simp, by simp⟩
  · rintro h
    obtain ⟨-, ⟨b, hb⟩, -⟩ := (heither partly).mp h
    exact absurd hb nofun
  · exact (heither otherwise).mpr ⟨⟨false, rfl⟩, ⟨true, rfl⟩, .inr (by simp)⟩

end Search

end ContentQuery
