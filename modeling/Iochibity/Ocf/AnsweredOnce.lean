/-
A request is executed as it was received when the search for its token stops nowhere on
its way down the tree, or where it does no harm.
-/
import Iochibity.Ocf.AnswerBatch

namespace Iochibity.Ocf

open Coap (CString)

def HasOwnRequest (tree : ServerRequestTree) (received : OCServerProtocolRequest) : Prop :=
  ∃ request ∈ tree.outstanding,
    request.devAddr = received.devAddr ∧ request.requestToken = received.requestToken

/-- **A request is executed as received.** A handler is given what was received, unless the endpoint
has such a request already, and no request of another endpoint. -/
structure ExecutedAsReceived (behind : OCServerRequest → List UInt8) (tree : ServerRequestTree)
    (received : OCServerProtocolRequest) : Prop where
  handed : HasOwnRequest tree received
    ∨ ∃ request, handleStackRequests behind tree received = .processed request
        ∧ ehRequest request = received.handed
  own : ∀ request, handleStackRequests behind tree received = .processed request →
    request.devAddr = received.devAddr

def SearchMeets (behind : OCServerRequest → List UInt8) (requestToken : List UInt8)
    (request : OCServerRequest) : ServerRequestTree → Prop
  | .nil => False
  | .node value left right =>
    request = value.1 ∨ rbRequestTokenCmp behind requestToken value.1 = some .lt
        ∧ SearchMeets behind requestToken request left
      ∨ rbRequestTokenCmp behind requestToken value.1 = some .gt
        ∧ SearchMeets behind requestToken request right

/-- **The search does no harm.** No request that it comes to has no token, or a memory that
begins with the new token; unless that one is complete and says the same, or the endpoint
has a request with this token and it is not a complete one of another endpoint. -/
def SearchHarmless (behind : OCServerRequest → List UInt8) (tree : ServerRequestTree)
    (received : OCServerProtocolRequest) : Prop :=
  received.requestToken = [] ∨ ∀ request, SearchMeets behind received.requestToken request tree →
      (request.requestToken = [] → HasOwnRequest tree received)
      ∧ (request.requestToken ≠ [] →
          received.requestToken <+: request.requestToken ++ behind request →
          request.requestComplete = true ∧ ehRequest request = received.handed
            ∨ HasOwnRequest tree received
              ∧ (request.requestComplete = true → request.devAddr = received.devAddr))

/-! ## The search -/

section Search

variable {behind : OCServerRequest → List UInt8} {requestToken : List UInt8}
  {request : OCServerRequest}

lemma rbRequestTokenCmp_none (htoken : requestToken ≠ []) :
    rbRequestTokenCmp behind requestToken request = none ↔ request.requestToken = [] := by
  unfold rbRequestTokenCmp
  by_cases h : request.requestToken = [] ∧ requestToken ≠ []
  · rw [if_pos h]
    simp [h]
  rw [if_neg h]
  exact iff_of_false (Option.some_ne_none _) (h ⟨·, htoken⟩)

lemma rbRequestTokenCmp_eq (htoken : requestToken ≠ []) :
    rbRequestTokenCmp behind requestToken request = some .eq
      ↔ request.requestToken ≠ [] ∧ requestToken <+: request.requestToken ++ behind request := by
  unfold rbRequestTokenCmp
  by_cases h : request.requestToken = [] ∧ requestToken ≠ []
  · rw [if_pos h]
    exact iff_of_false (Option.some_ne_none _).symm (·.1 h.1)
  rw [if_neg h, Option.some.injEq, PrefixCompare.prefixCompare_eq_iff]
  exact (and_iff_right (h ⟨·, htoken⟩)).symm

lemma rbFind_of_meets {tree : ServerRequestTree}
    (hmeets : SearchMeets behind requestToken request tree) :
    (rbRequestTokenCmp behind requestToken request = none →
        rbFind behind requestToken tree = .nullPointer)
      ∧ (rbRequestTokenCmp behind requestToken request = some .eq →
        rbFind behind requestToken tree = .found request) := by
  induction tree with
  | nil => exact hmeets.elim
  | node value left right ihLeft ihRight =>
    rw [rbFind]
    obtain rfl | ⟨hlt, hmeets⟩ | ⟨hgt, hmeets⟩ := hmeets
    · constructor
      · intro hnone
        rw [hnone]
      · intro heq
        rw [heq]
    · rw [hlt]
      exact ihLeft hmeets
    · rw [hgt]
      exact ihRight hmeets

lemma rbFind_spec (behind : OCServerRequest → List UInt8) (htoken : requestToken ≠ [])
    (tree : ServerRequestTree) :
    (rbFind behind requestToken tree = .nullPointer →
        ∃ request, SearchMeets behind requestToken request tree ∧ request.requestToken = [])
      ∧ ∀ request, rbFind behind requestToken tree = .found request →
          SearchMeets behind requestToken request tree ∧ request.requestToken ≠ []
            ∧ requestToken <+: request.requestToken ++ behind request := by
  induction tree with
  | nil =>
    constructor
    · intro h
      cases h
    · intro request h
      cases h
  | node value left right ihLeft ihRight =>
    rw [rbFind]
    cases hcmp : rbRequestTokenCmp behind requestToken value.1 with
    | none =>
      constructor
      · exact fun _ => ⟨value.1, .inl rfl, (rbRequestTokenCmp_none htoken).mp hcmp⟩
      · intro request h
        cases h
    | some order =>
      cases order with
      | eq =>
        constructor
        · intro h
          cases h
        · intro request h
          cases h
          exact ⟨.inl rfl, (rbRequestTokenCmp_eq htoken).mp hcmp⟩
      | lt =>
        constructor
        · intro h
          obtain ⟨request, hmeets, hnil⟩ := ihLeft.1 h
          exact ⟨request, .inr (.inl ⟨hcmp, hmeets⟩), hnil⟩
        · intro request h
          obtain ⟨hmeets, hhit⟩ := ihLeft.2 request h
          exact ⟨.inr (.inl ⟨hcmp, hmeets⟩), hhit⟩
      | gt =>
        constructor
        · intro h
          obtain ⟨request, hmeets, hnil⟩ := ihRight.1 h
          exact ⟨request, .inr (.inr ⟨hcmp, hmeets⟩), hnil⟩
        · intro request h
          obtain ⟨hmeets, hhit⟩ := ihRight.2 request h
          exact ⟨.inr (.inr ⟨hcmp, hmeets⟩), hhit⟩

end Search

/-! ## Execution -/

/-- **Requests are executed as received** exactly when the search does no harm. -/
theorem executedAsReceived_iff (behind : OCServerRequest → List UInt8)
    (tree : ServerRequestTree) (received : OCServerProtocolRequest) :
    ExecutedAsReceived behind tree received ↔ SearchHarmless behind tree received := by
  have hnew : ehRequest (.ofReceived received) = received.handed := rfl
  by_cases htoken : received.requestToken = []
  · -- a null pointer is not searched for
    refine iff_of_true ?_ (.inl htoken)
    have hhandle : handleStackRequests behind tree received
        = .processed (.ofReceived received) := by
      rw [handleStackRequests, getServerRequestUsingToken, if_pos htoken]
    refine ⟨.inr ⟨_, hhandle, hnew⟩, fun request h => ?_⟩
    rw [hhandle] at h
    cases h
    rfl
  have hget : getServerRequestUsingToken behind received.requestToken tree
      = rbFind behind received.requestToken tree := if_neg htoken
  constructor
  · rintro ⟨hhanded, hown⟩
    refine .inr (fun request hmeets => ⟨fun hnil => ?_, fun hsome hprefix => ?_⟩)
    · have hfind := (rbFind_of_meets hmeets).1 ((rbRequestTokenCmp_none htoken).mpr hnil)
      obtain hhas | ⟨executed, hprocessed, -⟩ := hhanded
      · exact hhas
      rw [handleStackRequests, hget, hfind] at hprocessed
      cases hprocessed
    · have hfind := (rbFind_of_meets hmeets).2 ((rbRequestTokenCmp_eq htoken).mpr ⟨hsome, hprefix⟩)
      have hhandle : handleStackRequests behind tree received
          = if request.requestComplete then .processed request else .incomplete := by
        rw [handleStackRequests, hget, hfind]
      rw [hhandle] at hhanded hown
      by_cases hcomplete : request.requestComplete = true
      · rw [if_pos hcomplete] at hhanded hown
        obtain hhas | ⟨executed, hprocessed, hsame⟩ := hhanded
        · exact .inr ⟨hhas, fun _ => hown request rfl⟩
        cases hprocessed
        exact .inl ⟨hcomplete, hsame⟩
      rw [if_neg hcomplete] at hhanded
      obtain hhas | ⟨executed, hprocessed, -⟩ := hhanded
      · exact .inr ⟨hhas, fun h => absurd h hcomplete⟩
      · cases hprocessed
  · rintro (hnil | hharmless)
    · exact absurd hnil htoken
    obtain ⟨hnull, hfound⟩ := rbFind_spec behind htoken tree
    cases hfind : rbFind behind received.requestToken tree with
    | nullPointer =>
      obtain ⟨request, hmeets, hnil⟩ := hnull hfind
      refine ⟨.inl ((hharmless request hmeets).1 hnil), fun executed h => ?_⟩
      rw [handleStackRequests, hget, hfind] at h
      cases h
    | notFound =>
      have hhandle : handleStackRequests behind tree received
          = .processed (.ofReceived received) := by
        rw [handleStackRequests, hget, hfind]
      refine ⟨.inr ⟨_, hhandle, hnew⟩, fun executed h => ?_⟩
      rw [hhandle] at h
      cases h
      rfl
    | found request =>
      obtain ⟨hmeets, hsome, hprefix⟩ := hfound request hfind
      have hhandle : handleStackRequests behind tree received
          = if request.requestComplete then .processed request else .incomplete := by
        rw [handleStackRequests, hget, hfind]
      by_cases hcomplete : request.requestComplete = true
      · rw [if_pos hcomplete] at hhandle
        have hprocessed : ∀ executed, handleStackRequests behind tree received
            = .processed executed → executed = request := by
          intro executed h
          rw [hhandle] at h
          exact (StackHandling.processed.inj h).symm
        obtain ⟨-, hsame⟩ | ⟨hhas, hown⟩ := (hharmless request hmeets).2 hsome hprefix
        · refine ⟨.inr ⟨request, hhandle, hsame⟩, fun executed h => ?_⟩
          rw [hprocessed executed h]
          exact congrArg HandedRequest.devAddr hsame
        refine ⟨.inl hhas, fun executed h => ?_⟩
        rw [hprocessed executed h]
        exact hown hcomplete
      rw [if_neg hcomplete] at hhandle
      obtain ⟨h, -⟩ | ⟨hhas, -⟩ := (hharmless request hmeets).2 hsome hprefix
      · exact absurd h hcomplete
      refine ⟨.inl hhas, fun executed h => ?_⟩
      rw [hhandle] at h
      cases h

def urlA : CString := ⟨[47, 97], by decide⟩

def urlB : CString := ⟨[47, 98], by decide⟩

theorem other_request_executed :
    ¬ ExecutedAsReceived (fun _ => [])
        (.node (⟨⟨.delete, urlA, ⟨[], by decide⟩, [], .high, 2, [], ⟨1, Coap.addrOne, 1⟩, [1, 2],
          7⟩, false, true, true, 1⟩, []) .nil .nil)
        ⟨.get, urlB, ⟨[], by decide⟩, [], .high, 2, [], ⟨1, Coap.addrTwo, 1⟩, [1], 8⟩ := by
  rintro ⟨-, hown⟩
  exact absurd (hown _ rfl) (by decide)

open Option

/-! ## When it holds -/

section When

variable (world : RequestWorld)

def OCEntityHandlerResult.succeeds (ehResult : OCEntityHandlerResult) : Bool :=
  ocResultToSuccess (entityHandlerCodeToOCStackCode ehResult)

section

variable (aggregates : Bool) (serverRequest : AggregatedRequest)

/-- **An entity handler.** Without a response it returns a success or `OC_EH_ERROR`, with one
that is sent a success other than `OC_EH_SLOW`; with one that could not be sent any error goes as
well. -/
def HandlerTurn.AnswersOnce :
    HandlerTurn → Prop
  | .slow late =>
    ∀ response ∈ late, responseFate world aggregates serverRequest response ≠ .undefined
  | .returns none ehResult => ehResult = .error ∨ ehResult.succeeds = true
  | .returns (some response) ehResult =>
    match responseFate world aggregates serverRequest response with
    | .kept _ => ehResult = .error ∨ ehResult.succeeds = true
    | .ended sent =>
      ehResult ≠ .slow ∧ (ehResult.succeeds = true
        ∨ sent = false ∧ (ehResult = .error → world.freesAgain = false))
    | .undefined => False

/-- **A resource with an entity handler.** The payload can be parsed, an observer to be removed is
there, and the observe option is a known one. -/
def ResourceAnswersOnce (entityHandler : HandlerTurn) : Prop :=
  formOCEntityHandlerRequest world serverRequest = .ok ∧
    if observeAction serverRequest = ocObserveNoOption then
      entityHandler.AnswersOnce world aggregates serverRequest
    else if observeAction serverRequest = ocObserveRegister then
      world.observerPresent = true ∨ (match world.addObserver with
        | .failed => True
        | _ => entityHandler.AnswersOnce world aggregates serverRequest)
    else if observeAction serverRequest = ocObserveDeregister then
      world.observerPresent = true ∧ (world.deleteObserver = true →
        entityHandler.AnswersOnce world aggregates serverRequest)
    else False

/-- **A virtual resource.** There are resources; the network information and the filters of
the query can be had. -/
def VirtualAnswersOnce : Prop :=
  world.headResource = true ∧ if world.virtualUri = .keepAliveResourceUri then
      (responseFate world aggregates serverRequest world.keepAliveResponse).MayBeHandedOn
    else serverRequest.received.method = .get →
      match handleVirtualObserveRequest world serverRequest with
      | .duplicateRequest => True
      | .ok =>
        world.virtualUri = .wellKnownUri ∧ world.multicastServerStopped = true
            ∧ world.unicast = false
          ∨ (match discover world with
            | .error result => result = .ok
            | .ok discoveryResult =>
              if discoveryResult = .ok then
                responseFate world aggregates serverRequest ⟨.ok, world.discoveryAnswer⟩
                  ≠ .undefined
              else True)
      | _ => False

def groupRequest (serverRequest : AggregatedRequest) : AggregatedRequest :=
  { serverRequest with
    numResponses := world.group.numResponses.getD serverRequest.numResponses }

/-- **A group action.** It succeeds when it has sent a response; otherwise an error can only
be answered when the responses are not aggregated. -/
def GroupAnswersOnce : Prop :=
  let aggregates := aggregates || world.group.numResponses.isSome
  match world.group.response with
  | none => world.group.result = .ok ∨ aggregates = false
  | some response =>
    match responseFate world aggregates (groupRequest world serverRequest) response with
    | .kept result => result = .ok ∧ world.group.result = .ok ∨ aggregates = false
    | .ended sent => sent = true ∧ world.group.result = .ok
    | .undefined => False

/-- **A collection with the default handler.** The payload can be parsed and the method is
not DELETE. -/
def CollectionAnswersOnce : Prop :=
  formOCEntityHandlerRequest world serverRequest = .ok ∧ serverRequest.received.method ≠ .delete
    ∧ if world.filters = false then aggregates = false
      else match world.interface with
        | .linkedList =>
          if serverRequest.received.method = .get then
            match responseFate world aggregates serverRequest world.links with
            | .kept result => result = .ok ∨ aggregates = false
            | .ended sent => sent = true
            | .undefined => False
          else aggregates = false
        | .batch => BatchAnswersOnce world serverRequest
        | .group => GroupAnswersOnce world aggregates serverRequest
        | .other => True

def HandlingAnswersOnce : Prop :=
  match determineResourceHandling world serverRequest with
  | .error _ => False
  | .ok .virtual => VirtualAnswersOnce world aggregates serverRequest
  | .ok (.defaultDeviceEntityHandler defaultDeviceHandler) =>
    formOCEntityHandlerRequest world serverRequest = .ok
      ∧ defaultDeviceHandler.AnswersOnce world aggregates serverRequest
  | .ok .notCollectionDefaultEntityHandler => False
  | .ok (.notCollectionWithEntityHandler entityHandler)
  | .ok (.collectionWithEntityHandler entityHandler) =>
    ResourceAnswersOnce world aggregates serverRequest entityHandler
  | .ok .collectionDefaultEntityHandler => CollectionAnswersOnce world aggregates serverRequest

end

def RequestAnswersOnce (tree : ServerRequestTree) (received : OCServerProtocolRequest) : Prop :=
  match getServerRequestUsingToken world.view.behind received.requestToken tree with
  | .nullPointer => False
  | .notFound => HandlingAnswersOnce world false ⟨.ofReceived received, world.acceptFormat⟩
  | .found request =>
    request.requestComplete = true →
      HandlingAnswersOnce world world.aggregates ⟨request, world.acceptFormat⟩

end When

/-! ## Entity handlers -/

section EntityHandlers

variable {world : RequestWorld} {observationOption : UInt32} {answering : Answering}
  {serverRequest : AggregatedRequest}

def afterTurn (world : RequestWorld) (ehResult : OCEntityHandlerResult)
    (late : Option OCEntityHandlerResponse) (answering : Answering) :
    Option (OCStackResult × Answering) :=
  if ehResult = .slow then
    answering.request.map (fun serverRequest =>
      (.slowResource,
        { answering with request := some { serverRequest with slowFlag := true }, late := late }))
  else if ehResult = .error then
    (answering.deleteServerRequest world).map (OCStackResult.error, ·)
  else some (entityHandlerCodeToOCStackCode ehResult, answering)

lemma entityHandlerTurn_eq (turn : HandlerTurn) :
    entityHandlerTurn world turn answering
      = (turn.response.elim (some answering) (fun response =>
          (ocDoResponse world response answering).map Prod.snd)).bind
            (afterTurn world turn.ehResult turn.late) := by
  unfold entityHandlerTurn
  rw [bind_eq_bind]
  congr 1
  funext answering'
  unfold afterTurn
  cases turn.ehResult <;> cases answering'.request <;>
    cases answering'.deleteServerRequest world <;> rfl

lemma result_ne_resourceError (ehResult : OCEntityHandlerResult) :
    entityHandlerCodeToOCStackCode ehResult ≠ .resourceError := by
  cases ehResult <;> decide

section

variable (h : answering.Fresh serverRequest)
include h

lemma settled_afterTurn_there (ehResult : OCEntityHandlerResult) :
    Settled world observationOption (afterTurn world ehResult none answering)
      ↔ ehResult = .error ∨ ehResult.succeeds = true := by
  unfold afterTurn
  split_ifs with hslow herror
  · rw [h.request, map_some]
    subst hslow
    have hthere : Answering.Fresh
        { answering with request := some { serverRequest with slowFlag := true }, late := none }
        { serverRequest with slowFlag := true } := ⟨rfl, rfl, h.sent⟩
    exact iff_of_true ((settled_there hthere (by decide)).mpr rfl) (.inr rfl)
  · exact iff_of_true (settled_deleted h (by decide)) (.inl herror)
  · rw [settled_there h (result_ne_resourceError ehResult)]
    exact (or_iff_right herror).symm

lemma settled_afterTurn_ended (sent : Bool) (responded : OCEntityHandlerResult)
    (ehResult : OCEntityHandlerResult) :
    Settled world observationOption (afterTurn world ehResult none
        { answering with
          request := none
          sent := answering.sent
            ++ if sent then [FinalResponse.response responded] else [] })
      ↔ ehResult ≠ .slow ∧ (ehResult.succeeds = true
          ∨ sent = false ∧ (ehResult = .error → world.freesAgain = false)) := by
  unfold afterTurn
  by_cases hslow : ehResult = .slow
  · rw [if_pos hslow]
    exact iff_of_false not_settled_none (·.1 hslow)
  rw [if_neg hslow]
  by_cases herror : ehResult = .error
  · rw [if_pos herror, deleteServerRequest_gone rfl]
    subst herror
    by_cases hagain : world.freesAgain = true
    · rw [if_pos hagain]
      refine iff_of_false not_settled_none ?_
      rintro ⟨-, hsuccess | ⟨-, hmisses⟩⟩
      · cases hsuccess
      · rw [hmisses rfl] at hagain
        cases hagain
    rw [if_neg hagain, map_some, settled_ended h sent responded (by decide)]
    have hmisses := Bool.eq_false_iff.mpr hagain
    constructor
    · rintro (hsent | hsuccess)
      · exact ⟨hslow, .inr ⟨hsent, fun _ => hmisses⟩⟩
      · cases hsuccess
    · rintro ⟨-, hsuccess | ⟨hsent, -⟩⟩
      · cases hsuccess
      · exact .inl hsent
  rw [if_neg herror, settled_ended h sent responded (result_ne_resourceError ehResult)]
  constructor
  · rintro (hsent | hsuccess)
    · exact ⟨hslow, .inr ⟨hsent, fun h => absurd h herror⟩⟩
    · exact ⟨hslow, .inl hsuccess⟩
  · rintro ⟨-, hsuccess | ⟨hsent, -⟩⟩
    · exact .inr hsuccess
    · exact .inl hsent

lemma settled_slow (late : Option OCEntityHandlerResponse) :
    Settled world observationOption (afterTurn world .slow late answering) ↔ ∀ response ∈ late,
          responseFate world answering.aggregates serverRequest response ≠ .undefined := by
  let waiting : Answering :=
    { answering with request := some { serverRequest with slowFlag := true }, late := late }
  have hafter : afterTurn world .slow late answering = some (.slowResource, waiting) := by
    unfold afterTurn
    rw [if_pos rfl, h.request]
    rfl
  have honce : waiting.Once := by
    refine ⟨?_, fun hne => absurd h.sent hne⟩
    rw [show waiting.sent = [] from h.sent]
    exact Nat.zero_le _
  rw [hafter]
  have hsettled : Settled world observationOption (some (.slowResource, waiting))
      ↔ ∃ later, respondLate world waiting = some later ∧ later.Once := by
    constructor
    · rintro ⟨finished, hfinished, -, hlater⟩
      cases hfinished
      exact hlater
    · exact fun hlater => ⟨waiting, rfl, honce, hlater⟩
  rw [hsettled]
  cases late with
  | none => exact iff_of_true ⟨waiting, rfl, honce⟩ (fun response hmem => by cases hmem)
  | some response =>
    have hlater : respondLate world waiting
        = (ocDoResponse world response waiting).map Prod.snd := rfl
    have htakes := ocDoResponse_fate world (show waiting.request = some _ from rfl) response
    have hfate : responseFate world waiting.aggregates
        { serverRequest with slowFlag := true } response
          = responseFate world answering.aggregates serverRequest response := rfl
    rw [hfate] at htakes
    rw [hlater]
    simp only [mem_some_iff, forall_eq']
    cases hwhich : responseFate world answering.aggregates serverRequest response with
    | kept result =>
      rw [hwhich] at htakes
      rw [show ocDoResponse world response waiting = _ from htakes]
      refine iff_of_true ⟨_, rfl, ?_⟩ ResponseFate.noConfusion
      refine ⟨honce.1, fun hne => absurd h.sent hne⟩
    | ended sent =>
      rw [hwhich] at htakes
      obtain ⟨ehResult, htakes⟩ := htakes
      rw [htakes]
      refine iff_of_true ⟨_, rfl, ?_⟩ ResponseFate.noConfusion
      refine ⟨?_, fun _ => rfl⟩
      dsimp only
      rw [show waiting.sent = [] from h.sent]
      cases sent
      · exact Nat.zero_le _
      · exact Nat.le_refl _
    | undefined =>
      rw [hwhich] at htakes
      rw [show ocDoResponse world response waiting = none from htakes]
      refine iff_of_false ?_ (· rfl)
      rintro ⟨later, hnone, -⟩
      cases hnone

lemma settled_entityHandlerTurn (turn : HandlerTurn) :
    Settled world observationOption (entityHandlerTurn world turn answering)
      ↔ turn.AnswersOnce world answering.aggregates serverRequest := by
  rw [entityHandlerTurn_eq]
  cases turn with
  | slow late => exact settled_slow h late
  | returns response ehResult =>
    cases response with
    | none => exact settled_afterTurn_there h ehResult
    | some response =>
      have htakes := ocDoResponse_fate world h.request response
      unfold HandlerTurn.AnswersOnce HandlerTurn.response HandlerTurn.ehResult HandlerTurn.late
      dsimp only [elim_some]
      cases hfate : responseFate world answering.aggregates serverRequest response with
      | kept result =>
        rw [hfate] at htakes
        rw [show ocDoResponse world response answering = _ from htakes, map_some, bind_some]
        exact settled_afterTurn_there (h.kept _) ehResult
      | ended sent =>
        rw [hfate] at htakes
        obtain ⟨responded, htakes⟩ := htakes
        rw [htakes, map_some, bind_some]
        exact settled_afterTurn_ended h sent responded ehResult
      | undefined =>
        rw [hfate] at htakes
        rw [show ocDoResponse world response answering = none from htakes]
        exact iff_of_false not_settled_none id

lemma settled_unless_parsed {handled : Option (OCStackResult × Answering)} {P : Prop}
    (hparsed : Settled world observationOption handled ↔ P) :
    Settled world observationOption
        (if formOCEntityHandlerRequest world serverRequest ≠ .ok then
          some (formOCEntityHandlerRequest world serverRequest, answering)
        else handled)
      ↔ formOCEntityHandlerRequest world serverRequest = .ok ∧ P := by
  by_cases hok : formOCEntityHandlerRequest world serverRequest = .ok
  · rw [if_neg (not_not.mpr hok), hparsed]
    exact (and_iff_right hok).symm
  have herror : formOCEntityHandlerRequest world serverRequest = .error := by
    unfold formOCEntityHandlerRequest at hok ⊢
    split_ifs at hok ⊢
    · rfl
    · exact absurd rfl hok
  rw [if_pos hok, herror, settled_there h (by decide)]
  exact iff_of_false (by decide) (fun hand => absurd hand.1 (by decide))

lemma settled_resource (entityHandler : HandlerTurn) :
    Settled world observationOption
        (handleResourceWithEntityHandler world serverRequest entityHandler answering)
      ↔ ResourceAnswersOnce world answering.aggregates serverRequest entityHandler := by
  have hturn : Settled world observationOption (entityHandlerTurn world entityHandler answering)
      ↔ entityHandler.AnswersOnce world answering.aggregates serverRequest :=
    settled_entityHandlerTurn h entityHandler
  unfold handleResourceWithEntityHandler ResourceAnswersOnce
  refine settled_unless_parsed h ?_
  by_cases hnone : observeAction serverRequest = ocObserveNoOption
  · rw [if_pos hnone, if_pos hnone]
    exact hturn
  rw [if_neg hnone, if_neg hnone]
  by_cases hregister : observeAction serverRequest = ocObserveRegister
  · rw [if_pos hregister, if_pos hregister]
    by_cases hpresent : world.observerPresent = true
    · rw [if_pos hpresent]
      exact iff_of_true (settled_deleted h (by decide)) (.inl hpresent)
    rw [if_neg hpresent, or_iff_right hpresent]
    cases world.addObserver with
    | added | resourceError => exact hturn
    | failed => exact iff_of_true (settled_deleted h (by decide)) trivial
  rw [if_neg hregister, if_neg hregister]
  by_cases hderegister : observeAction serverRequest = ocObserveDeregister
  · rw [if_pos hderegister, if_pos hderegister]
    by_cases hpresent : world.observerPresent = true
    · rw [if_pos hpresent, and_iff_right hpresent]
      by_cases hdeleted : world.deleteObserver = true
      · rw [if_pos hdeleted, hturn]
        exact ⟨fun honce _ => honce, fun honce => honce hdeleted⟩
      rw [if_neg hdeleted]
      exact iff_of_true (settled_deleted h (by decide)) (absurd · hdeleted)
    rw [if_neg hpresent, settled_there h (by decide)]
    exact iff_of_false (by decide) (hpresent ·.1)
  rw [if_neg hderegister, if_neg hderegister, settled_there h (by decide)]
  exact iff_of_false (by decide) id

end

end EntityHandlers

/-! ## Virtual resources -/

section Virtual

variable {world : RequestWorld} {observationOption : UInt32} {answering : Answering}
  {serverRequest : AggregatedRequest}

lemma result_of_discover {result : OCStackResult} (h : discover world = .error result) :
    result ≠ .resourceError ∧ (ocResultToSuccess result = true ↔ result = .ok) := by
  unfold discover at h
  split at h
  · split_ifs at h <;> cases h <;> decide
  · split_ifs at h; cases h; decide
  · split_ifs at h; cases h; decide
  · split_ifs at h; cases h; decide
  · split_ifs at h <;> cases h <;> decide
  · cases h

lemma settled_answerDiscovery (h : answering.Fresh serverRequest)
    (discoveryResult : OCStackResult) :
    Settled world observationOption (answerDiscovery world discoveryResult answering)
      ↔ if discoveryResult = .ok then
          responseFate world answering.aggregates serverRequest ⟨.ok, world.discoveryAnswer⟩
            ≠ .undefined
        else True := by
  unfold answerDiscovery
  by_cases hok : discoveryResult = .ok
  · rw [if_pos hok, if_pos hok]
    exact settled_ignored h _ (by decide) rfl
  rw [if_neg hok, if_neg hok, iff_true]
  by_cases hunicast : world.unicast = true
  · rw [if_pos hunicast, settled_ignored h _ (by decide) rfl, fate_without_payload]
    split_ifs <;> exact ResponseFate.noConfusion
  rw [if_neg hunicast]
  exact settled_deleted h (by decide)

lemma settled_virtual (h : answering.Fresh serverRequest) :
    Settled world observationOption (handleVirtualResource world serverRequest answering)
      ↔ VirtualAnswersOnce world answering.aggregates serverRequest := by
  unfold handleVirtualResource VirtualAnswersOnce
  by_cases hhead : world.headResource = false
  · rw [if_pos hhead, settled_there h (by decide), hhead]
    exact iff_of_false (by decide) (fun hand => absurd hand.1 (by decide))
  rw [if_neg hhead, and_iff_right (Bool.eq_true_of_not_eq_false hhead)]
  by_cases hkeep : world.virtualUri = .keepAliveResourceUri
  · rw [if_pos hkeep, if_pos hkeep]
    exact settled_handedOn h _
  rw [if_neg hkeep, if_neg hkeep]
  by_cases hmethod : serverRequest.received.method = .get
  · rw [if_neg (not_not.mpr hmethod), forall_prop_of_true hmethod]
    have hresult : handleVirtualObserveRequest world serverRequest = .ok
        ∨ handleVirtualObserveRequest world serverRequest = .duplicateRequest
        ∨ handleVirtualObserveRequest world serverRequest = .error := by
      unfold handleVirtualObserveRequest
      split_ifs <;> simp
    obtain hobserve | hobserve | hobserve := hresult
    · rw [hobserve]
      dsimp only
      by_cases hstopped : world.virtualUri = .wellKnownUri
          ∧ world.multicastServerStopped = true ∧ world.unicast = false
      · rw [if_pos hstopped]
        exact iff_of_true (settled_deleted h (by decide)) (.inl hstopped)
      rw [if_neg hstopped, or_iff_right hstopped]
      cases hdiscover : discover world with
      | error result =>
        obtain ⟨hne, hsuccess⟩ := result_of_discover hdiscover
        exact (settled_there h hne).trans hsuccess
      | ok discoveryResult => exact settled_answerDiscovery h discoveryResult
    · rw [hobserve]
      exact iff_of_true (settled_deleted h (by decide)) trivial
    · rw [hobserve]
      exact (settled_there h (by decide)).trans (iff_of_false (by decide) id)
  rw [if_pos hmethod]
  exact iff_of_true (settled_deleted h (by decide)) (absurd · hmethod)

end Virtual

/-! ## Collections -/

section Collections

variable {world : RequestWorld} {observationOption : UInt32} {answering : Answering}
  {serverRequest : AggregatedRequest}

variable (world observationOption) in
lemma settled_response_badRequest (h : answering.Fresh serverRequest)
    (response : OCEntityHandlerResponse) (change : OCStackResult → OCStackResult)
    (hok : ∀ result, change result = .ok → result = .ok) :
    Settled world observationOption
        (((ocDoResponse world response answering).map (fun answered =>
          (change answered.1, answered.2))).bind (badRequestUnlessOk world))
      ↔ match responseFate world answering.aggregates serverRequest response with
        | .kept result => change result = .ok ∨ answering.aggregates = false
        | .ended sent => sent = true ∧ change .ok = .ok
        | .undefined => False := by
  have htakes := ocDoResponse_fate world h.request response
  cases hfate : responseFate world answering.aggregates serverRequest response with
  | kept result =>
    rw [hfate] at htakes
    rw [show ocDoResponse world response answering = _ from htakes, map_some, bind_some]
    dsimp only
    by_cases hchange : change result = .ok
    · rw [hchange, badRequestUnlessOk_ok]
      exact iff_of_true ((settled_there (h.kept _) (by decide)).mpr rfl) (.inl rfl)
    rw [settled_badRequest (h.kept _) hchange]
    exact (or_iff_right hchange).symm
  | ended sent =>
    rw [hfate] at htakes
    obtain ⟨ehResult, htakes⟩ := htakes
    rw [htakes, map_some, bind_some]
    dsimp only
    by_cases hchange : change (if sent then .ok else .error) = .ok
    · have hsent : sent = true := by
        have hresult := hok _ hchange
        cases sent with
        | true => rfl
        | false => cases hresult
      subst hsent
      rw [hchange, badRequestUnlessOk_ok]
      exact iff_of_true ((settled_ended h true ehResult (by decide)).mpr (.inr rfl)) ⟨rfl, hchange⟩
    unfold badRequestUnlessOk
    rw [if_neg hchange, ocDoResponse_gone rfl]
    refine iff_of_false not_settled_none ?_
    rintro ⟨rfl, hsame⟩
    exact hchange hsame
  | undefined =>
    rw [hfate] at htakes
    rw [show ocDoResponse world response answering = none from htakes]
    exact iff_of_false not_settled_none id

variable (world) in
lemma startGroup_fresh (h : answering.Fresh serverRequest) :
    (startGroup world serverRequest answering).Fresh (groupRequest world serverRequest)
      ∧ (startGroup world serverRequest answering).aggregates
        = (answering.aggregates || world.group.numResponses.isSome) := by
  unfold startGroup groupRequest
  cases world.group.numResponses with
  | none => exact ⟨h, (Bool.or_false _).symm⟩
  | some numResponses => exact ⟨⟨rfl, h.late, h.sent⟩, (Bool.or_true _).symm⟩

lemma settled_group (h : answering.Fresh serverRequest) :
    Settled world observationOption
        ((handleGroup world serverRequest answering).bind (badRequestUnlessOk world))
      ↔ GroupAnswersOnce world answering.aggregates serverRequest := by
  obtain ⟨hfresh, haggregates⟩ := startGroup_fresh world h
  unfold handleGroup GroupAnswersOnce
  rw [← haggregates]
  cases world.group.response with
  | none =>
    dsimp only [bind_some]
    by_cases hok : world.group.result = .ok
    · rw [hok, badRequestUnlessOk_ok]
      exact iff_of_true ((settled_there hfresh (by decide)).mpr rfl) (.inl rfl)
    rw [settled_badRequest hfresh hok]
    exact (or_iff_right hok).symm
  | some response =>
    have hchange : ∀ result : OCStackResult,
        (if result = .ok then world.group.result else .error) = .ok
          ↔ result = .ok ∧ world.group.result = .ok := by
      intro result
      split_ifs with hresult
      · exact (and_iff_right hresult).symm
      · exact iff_of_false (by decide) (hresult ·.1)
    rw [settled_response_badRequest world observationOption hfresh response
      (fun result => if result = .ok then world.group.result else .error)
      (fun result hresult => ((hchange result).mp hresult).1)]
    dsimp only
    cases responseFate world (startGroup world serverRequest answering).aggregates
        (groupRequest world serverRequest) response with
    | kept result => simp [hchange]
    | ended sent => exact and_congr_right (fun _ => (hchange .ok).trans (and_iff_right rfl))
    | undefined => exact Iff.rfl

lemma settled_linkedList (h : answering.Fresh serverRequest) :
    Settled world observationOption
        ((ocDoResponse world world.links answering).bind (badRequestUnlessOk world))
      ↔ match responseFate world answering.aggregates serverRequest world.links with
        | .kept result => result = .ok ∨ answering.aggregates = false
        | .ended sent => sent = true
        | .undefined => False := by
  have hsettled := settled_response_badRequest world observationOption h world.links id
    (fun _ hresult => hresult)
  simpa using hsettled

lemma settled_collection (h : answering.Fresh serverRequest) :
    Settled world observationOption
        (handleCollectionResourceDefaultEntityHandler world serverRequest answering)
      ↔ CollectionAnswersOnce world answering.aggregates serverRequest := by
  unfold handleCollectionResourceDefaultEntityHandler CollectionAnswersOnce
  refine settled_unless_parsed h ?_
  unfold defaultCollectionEntityHandler
  by_cases hdelete : serverRequest.received.method = .delete
  · rw [if_pos hdelete, settled_there h (by decide)]
    exact iff_of_false (by decide) (·.1 hdelete)
  rw [if_neg hdelete, and_iff_right hdelete]
  by_cases hfilters : world.filters = false
  · rw [if_pos hfilters, if_pos hfilters]
    exact settled_badRequest h (by decide)
  rw [if_neg hfilters, if_neg hfilters]
  cases world.interface with
  | linkedList =>
    dsimp only
    by_cases hget : serverRequest.received.method = .get
    · rw [if_pos hget, if_pos hget]
      exact settled_linkedList h
    rw [if_neg hget, if_neg hget]
    exact settled_badRequest h (by decide)
  | batch => exact settled_batch h
  | group => exact settled_group h
  | other => exact iff_of_true ((settled_there h (by decide)).mpr rfl) trivial

end Collections

/-! ## Requests -/

section Requests

variable {world : RequestWorld}

lemma result_of_determine {serverRequest : AggregatedRequest} {result : OCStackResult}
    (h : determineResourceHandling world serverRequest = .error result) :
    result ≠ .resourceError ∧ ocResultToSuccess result = false := by
  unfold determineResourceHandling at h
  split_ifs at h
  · cases h
    decide
  · split at h
    · split at h
      · cases h
        decide
      · cases h
        decide
      · split at h <;> cases h
    split at h
    · cases h
    cases h
    decide

lemma settled_handling {observationOption : UInt32} {serverRequest : AggregatedRequest}
    {aggregates : Bool} :
    Settled world observationOption
        (handleCompleteRequest world serverRequest (.start serverRequest aggregates))
      ↔ HandlingAnswersOnce world aggregates serverRequest := by
  have h : (Answering.start serverRequest aggregates).Fresh serverRequest := ⟨rfl, rfl, rfl⟩
  unfold handleCompleteRequest HandlingAnswersOnce
  cases hdetermined : determineResourceHandling world serverRequest with
  | error result =>
    obtain ⟨hne, hfailure⟩ := result_of_determine hdetermined
    refine (settled_there h hne).trans (iff_of_false ?_ id)
    rw [hfailure]
    decide
  | ok handling =>
    cases handling with
    | virtual => exact settled_virtual h
    | defaultDeviceEntityHandler defaultDeviceHandler =>
      exact settled_unless_parsed h (settled_entityHandlerTurn h defaultDeviceHandler)
    | notCollectionDefaultEntityHandler =>
      exact (settled_there h (by decide)).trans (iff_of_false (by decide) id)
    | notCollectionWithEntityHandler entityHandler => exact settled_resource h entityHandler
    | collectionDefaultEntityHandler => exact settled_collection h
    | collectionWithEntityHandler entityHandler => exact settled_resource h entityHandler

/-- **Requests are answered once and then forgotten** exactly when every answer is given by
the handler whose turn it is, or the request is deleted first. -/
theorem answeredOnce_iff (world : RequestWorld) (tree : ServerRequestTree)
    (received : OCServerProtocolRequest) :
    AnsweredOnce world tree received ↔ RequestAnswersOnce world tree received := by
  unfold AnsweredOnce ocHandleRequests RequestAnswersOnce
  cases getServerRequestUsingToken world.view.behind received.requestToken tree with
  | nullPointer =>
    refine iff_of_false ?_ id
    rintro ⟨answering, hnone, -⟩
    cases hnone
  | notFound => exact settled_handling
  | found request =>
    dsimp only
    by_cases hcomplete : request.requestComplete = true
    · rw [if_pos hcomplete]
      exact settled_handling.trans ⟨fun honce _ => honce, fun honce => honce hcomplete⟩
    rw [if_neg hcomplete]
    refine iff_of_true ?_ (fun hc => absurd hc hcomplete)
    have honce : (Answering.start ⟨request, world.acceptFormat⟩ world.aggregates).Once :=
      ⟨Nat.zero_le _, fun hne => absurd rfl hne⟩
    exact ⟨_, rfl, honce, _, rfl, honce⟩

def emptyWorld : RequestWorld where
  view := emptyView
  acceptFormat := .cbor
  aggregates := false
  sends := true
  virtualUri := .unknownUri
  headResource := true
  resource := none
  defaultDeviceHandler := none
  parses := true
  observerPresent := false
  addObserver := .added
  deleteObserver := true
  unicast := true
  multicastServerStopped := false
  networkInformation := true
  virtualResource := true
  filters := true
  discoveryResult := .ok
  discoveryPayload := none
  keepAliveResponse := ⟨.ok, none⟩
  interface := .other
  links := ⟨.ok, none⟩
  children := []
  aggregateConverts := fun _ => true
  group := ⟨none, none, .ok⟩

theorem unknown_resource_stays :
    ¬ AnsweredOnce emptyWorld .nil
        ⟨.get, urlB, ⟨[], by decide⟩, [], .high, 2, [], ⟨1, Coap.addrOne, 1⟩, [1], 7⟩ := by
  rintro ⟨answering, hanswering, ⟨-, hgone⟩, -⟩
  cases hanswering
  exact absurd (hgone (List.cons_ne_nil _ _)) (some_ne_none _)

end Requests

end Iochibity.Ocf
