/-
Batch responses have the fragments of their own requests, all of them and in order, when
every child responds at once, there are at most 256 of them, the response can be sent, and
what is left of the request when it has been freed is not found again.
-/
import Iochibity.Ocf.RequestAnswer

namespace Iochibity.Ocf

open Coap (CString)
open Collector (Collections collect openNew)
open List
open Option
open Function (update update_self)
open UInt8 (ofNat toNat_ofNat')

/-! ## What is required, and when it holds -/

def BatchEvent.collected (collections : Collections ℕ HeapPayload) :
    BatchEvent → Collections ℕ HeapPayload × List (ℕ × List HeapPayload)
  | .batch request _ =>
    Runs.run collect (openNew collections request.handle request.children.length)
      (request.fragments.map (Prod.mk request.handle))
  | .late requestHandle fragment _ => collect collections (requestHandle, fragment)

/-- **The responses that are owed**: one for each request, when the last of its fragments
arrives, with all of them. -/
def owedResponses (uninit : ℕ → Option CString) (events : List BatchEvent) : List SentResponse :=
  (Runs.run BatchEvent.collected (fun _ => none) events).2.map (fun complete =>
    .aggregated complete.1 (complete.2.map (repPayloadBatchClone uninit)))

/-- **A batch request that is aggregated.** There are children, at most 256, and each responds at
once; the client accepts CBOR and the response can be converted; and what a freed request seems to
have for a token stops the search nowhere. -/
structure BatchRequest.IsAggregated (uninit : ℕ → Option CString)
    (converts : OCPayloadFormat → List HeapPayload → Bool) (request : BatchRequest)
    (view : MemoryView) : Prop where
  someChild : request.children ≠ []
  atOnce : ∀ child ∈ request.children, child.response.isSome = true ∧ child.ehResult ≠ .slow
  counted : request.children.length ≤ 256
  accepted : request.acceptFormat.isAccepted = true
  converted : converts request.acceptFormat
    (request.fragments.map (repPayloadBatchClone uninit)) = true
  forgotten : rbFind view.behind view.stale view.others = .notFound

def BatchEvent.IsAggregated (uninit : ℕ → Option CString)
    (converts : OCPayloadFormat → List HeapPayload → Bool) : BatchEvent → Prop
  | .batch request view => request.IsAggregated uninit converts view
  | .late _ _ _ => False

lemma foldl_count (children : List ChildTurn) (n : ℕ) :
    children.foldl (fun size _ => size + 1) (ofNat n)
      = ofNat (n + children.length) := by
  induction children generalizing n with
  | nil => rfl
  | cons child children ih =>
    have hsucc : ofNat n + 1 = ofNat (n + 1) := (UInt8.ofNat_add n 1).symm
    rw [foldl_cons, hsucc, ih, length_cons]
    exact congrArg ofNat (by omega)

lemma getNumOfResourcesInCollection_eq (children : List ChildTurn) :
    getNumOfResourcesInCollection children = ofNat children.length := by
  have h := foldl_count children 0
  rw [Nat.zero_add] at h
  exact h

lemma ofNat_succ_sub_one (n : ℕ) : ofNat (n + 1) - 1 = ofNat n := by
  simp

lemma ofNat_ne_zero {n : ℕ} (hpos : 0 < n) (hlt : n < 256) : ofNat n ≠ 0 := by
  intro h
  have hnat := congrArg UInt8.toNat h
  rw [toNat_ofNat', Nat.mod_eq_of_lt hlt] at hnat
  exact absurd hnat (Nat.pos_iff_ne_zero.mp hpos)

/-! ## Fragments -/

structure Collecting (server : BatchServer) (requestHandle : ℕ) (request : AggregatedRequest)
    (fragments : List HeapPayload) : Prop where
  request : server.requests requestHandle = some request
  response : fragments = [] ∧ server.responses = .nil
    ∨ ∃ address, server.responses = .node ⟨address, requestHandle⟩ .nil .nil
        ∧ server.payload address = fragments

section Fragments

variable {rb : ResponseTree} {uninit : ℕ → Option CString}
  {converts : OCPayloadFormat → List HeapPayload → Bool} {view : MemoryView}
  {server : BatchServer} {requestHandle : ℕ} {request : AggregatedRequest}
  {fragments : List HeapPayload}

lemma rbRequestTokenCmp_self (behind : OCServerRequest → List UInt8) (request : OCServerRequest) :
    rbRequestTokenCmp behind request.requestToken request = some .eq := by
  unfold rbRequestTokenCmp
  rw [if_neg (fun h => h.2 h.1), Option.some.injEq, PrefixCompare.prefixCompare_eq_iff]
  simp

lemma getOrAddServerResponse_spec (hrb : rb.Correct) (view : MemoryView)
    (h : Collecting server requestHandle request fragments) :
    ∃ address server', server.getOrAddServerResponse rb view requestHandle
        = some (⟨address, requestHandle⟩, server')
      ∧ server'.responses = .node ⟨address, requestHandle⟩ .nil .nil
      ∧ server'.payload address = fragments
      ∧ server'.requests = server.requests ∧ server'.sent = server.sent := by
  obtain ⟨hrequest, ⟨rfl, hnil⟩ | ⟨address, hnode, hpayload⟩⟩ := h
  · have hadd : server.getOrAddServerResponse rb view requestHandle
        = some (⟨server.freshAddress, requestHandle⟩,
            { server with
              responses := .node ⟨server.freshAddress, requestHandle⟩ .nil .nil
              payload := update server.payload server.freshAddress []
              freshAddress := server.freshAddress + 1 }) := by
      unfold BatchServer.getOrAddServerResponse
      simp only [hnil, rbFindResponse, hrb.insert_nil]
      rfl
    exact ⟨_, _, hadd, rfl, update_self _ _ _, rfl, rfl⟩
  refine ⟨address, server, ?_, hnode, hpayload, rfl, rfl⟩
  have hcmp : server.rbResponseTokenCmp view requestHandle ⟨address, requestHandle⟩ = some .eq := by
    unfold BatchServer.rbResponseTokenCmp
    rw [hrequest]
    exact rbRequestTokenCmp_self _ _
  unfold BatchServer.getOrAddServerResponse
  simp only [hnode, rbFindResponse, hcmp]
  rfl

lemma handleAggregateResponse_more (hrb : rb.Correct) (uninit : ℕ → Option CString)
    (converts : OCPayloadFormat → List HeapPayload → Bool) (view : MemoryView)
    (h : Collecting server requestHandle request fragments) (fragment : HeapPayload)
    (hmore : request.numResponses - 1 ≠ 0) :
    ∃ server', server.handleAggregateResponse rb uninit converts view requestHandle fragment
        = some server'
      ∧ Collecting server' requestHandle { request with numResponses := request.numResponses - 1 }
          (fragments ++ [repPayloadBatchClone uninit fragment])
      ∧ server'.sent = server.sent := by
  obtain ⟨address, server₁, hget, hresponses, hpayload, hrequests, hsent⟩ :=
    getOrAddServerResponse_spec hrb view h
  have hrequest₁ : server₁.requests requestHandle = some request := by
    rw [hrequests]
    exact h.request
  unfold BatchServer.handleAggregateResponse
  simp only [hget, hpayload, hrequest₁, bind_eq_bind, bind_some, if_neg hmore]
  exact ⟨_, rfl, ⟨update_self _ _ _, Or.inr ⟨address, hresponses, update_self _ _ _⟩⟩, hsent⟩

lemma handleAggregateResponse_last (hrb : rb.Correct)
    (h : Collecting server requestHandle request fragments) (fragment : HeapPayload)
    (hlast : request.numResponses - 1 = 0) (haccepted : request.acceptFormat.isAccepted = true)
    (hconverted : converts request.acceptFormat
      (fragments ++ [repPayloadBatchClone uninit fragment]) = true)
    (hforgotten : rbFind view.behind view.stale view.others = .notFound) :
    ∃ server', server.handleAggregateResponse rb uninit converts view requestHandle fragment
        = some server'
      ∧ server'.responses = .nil
      ∧ server'.sent = server.sent ++ [.aggregated requestHandle
          (fragments ++ [repPayloadBatchClone uninit fragment])] := by
  obtain ⟨address, server₁, hget, hresponses, hpayload, hrequests, hsent⟩ :=
    getOrAddServerResponse_spec hrb view h
  have hrequest₁ : server₁.requests requestHandle = some request := by
    rw [hrequests]
    exact h.request
  unfold BatchServer.handleAggregateResponse BatchServer.handleSingleResponse
  simp only [hget, hpayload, hrequest₁, bind_eq_bind, bind_some, if_pos hlast, update_self,
    haccepted, hconverted, if_true, BatchServer.deleteServerRequest, BatchServer.send, hforgotten]
  refine ⟨_, rfl, ?_, ?_⟩
  · rw [hresponses]
    exact hrb.remove_only _
  · rw [hsent]

/-! ## A batch -/

lemma foldlM_batchTurn (hrb : rb.Correct) {children : List ChildTurn}
    (hsome : children ≠ []) (hcounted : children.length ≤ 256)
    (h : Collecting server requestHandle request fragments)
    (hnum : request.numResponses = ofNat children.length)
    (hatOnce : ∀ child ∈ children, child.response.isSome = true ∧ child.ehResult ≠ .slow)
    (haccepted : request.acceptFormat.isAccepted = true)
    (hconverted : converts request.acceptFormat (fragments
      ++ (children.filterMap ChildTurn.response).map (repPayloadBatchClone uninit)) = true)
    (hforgotten : rbFind view.behind view.stale view.others = .notFound) :
    ∃ server', children.foldlM (batchTurn rb uninit converts view requestHandle) (.ok, server)
        = some (.ok, server')
      ∧ server'.responses = .nil
      ∧ server'.sent = server.sent ++ [.aggregated requestHandle (fragments
          ++ (children.filterMap ChildTurn.response).map (repPayloadBatchClone uninit))] := by
  induction children generalizing server request fragments with
  | nil => exact absurd rfl hsome
  | cons child children ih =>
    obtain ⟨hresponse, hslow⟩ := hatOnce child mem_cons_self
    obtain ⟨fragment, hfragment⟩ := isSome_iff_exists.mp hresponse
    have hturn : ∀ server', server.handleAggregateResponse rb uninit converts view
        requestHandle fragment = some server' →
        batchTurn rb uninit converts view requestHandle (.ok, server) child
          = some (.ok, server') := by
      intro server' hhandle
      unfold batchTurn
      rw [hfragment, elim_some, hhandle, bind_eq_bind, bind_some, if_neg hslow]
      rfl
    have hleft : request.numResponses - 1 = ofNat children.length := by
      rw [hnum, length_cons, ofNat_succ_sub_one]
    rw [filterMap_cons_some hfragment, map_cons] at hconverted ⊢
    rw [length_cons] at hcounted
    rw [foldlM_cons]
    by_cases hrest : children = []
    · -- the last child
      subst hrest
      obtain ⟨server', hhandle, hnil, hsent⟩ := handleAggregateResponse_last hrb h fragment
        (by rw [hleft]; rfl) haccepted hconverted hforgotten
      rw [hturn server' hhandle]
      exact ⟨server', rfl, hnil, hsent⟩
    have hpos : 0 < children.length := length_pos_iff.mpr hrest
    have hmore : request.numResponses - 1 ≠ 0 := by
      rw [hleft]
      exact ofNat_ne_zero hpos (by omega)
    obtain ⟨server₁, hhandle, hcollecting, hsent₁⟩ :=
      handleAggregateResponse_more hrb uninit converts view h fragment hmore
    rw [hturn server₁ hhandle, bind_eq_bind, bind_some]
    have hassoc := append_cons fragments (repPayloadBatchClone uninit fragment)
      ((children.filterMap ChildTurn.response).map (repPayloadBatchClone uninit))
    rw [hassoc] at hconverted ⊢
    rw [← hsent₁]
    exact ih hrest (by omega) hcollecting hleft
      (fun c hc => hatOnce c (mem_cons_of_mem _ hc)) haccepted hconverted

lemma apply_batch (hrb : rb.Correct) (hidle : server.responses = .nil) {batch : BatchRequest}
    (h : batch.IsAggregated uninit converts view) :
    ∃ server', BatchEvent.apply rb uninit converts server (.batch batch view) = some server'
      ∧ server'.responses = .nil
      ∧ server'.sent = server.sent ++ [.aggregated batch.handle
          (batch.fragments.map (repPayloadBatchClone uninit))] := by
  have hstart : Collecting
      { server with
        requests := update server.requests batch.handle
          (some ⟨⟨batch.received, false, true, false,
            getNumOfResourcesInCollection batch.children⟩, batch.acceptFormat⟩) }
      batch.handle
      ⟨⟨batch.received, false, true, false, getNumOfResourcesInCollection batch.children⟩,
        batch.acceptFormat⟩ [] :=
    ⟨update_self _ _ _, Or.inl ⟨rfl, hidle⟩⟩
  obtain ⟨server', hloop, hnil, hsent⟩ := foldlM_batchTurn hrb h.someChild h.counted hstart
    (getNumOfResourcesInCollection_eq _) h.atOnce h.accepted h.converted h.forgotten
  refine ⟨server', ?_, hnil, hsent⟩
  unfold BatchEvent.apply BatchServer.defaultCollectionEntityHandler handleBatchInterface
  simp [OCServerRequest.ofReceived, hloop]

end Fragments

lemma runBatches_spec {rb : ResponseTree} (hrb : rb.Correct) {uninit : ℕ → Option CString}
    {converts : OCPayloadFormat → List HeapPayload → Bool} {events : List BatchEvent}
    (h : ∀ event ∈ events, event.IsAggregated uninit converts) {server : BatchServer}
    (hidle : server.responses = .nil) (collections : Collections ℕ HeapPayload) :
    ∃ server', runBatches rb uninit converts server events = some server'
      ∧ server'.sent = server.sent
          ++ (Runs.run BatchEvent.collected collections events).2.map (fun complete =>
              .aggregated complete.1 (complete.2.map (repPayloadBatchClone uninit))) := by
  induction events generalizing server collections with
  | nil => exact ⟨server, rfl, (append_nil _).symm⟩
  | cons event events ih =>
    have hevent := h event mem_cons_self
    cases event with
    | late requestHandle fragment view => exact hevent.elim
    | batch batch view =>
      obtain ⟨server₁, happly, hidle₁, hsent₁⟩ := apply_batch hrb hidle hevent
      obtain ⟨server', hrun, hsent⟩ :=
        ih (fun e he => h e (mem_cons_of_mem _ he)) hidle₁ (update collections batch.handle none)
      have hall : batch.fragments.length = batch.children.length :=
        filterMap_length_eq_length.mpr (fun child hchild =>
          (hevent.atOnce child hchild).1)
      have hcollected : BatchEvent.collected collections (.batch batch view)
          = (update collections batch.handle none, [(batch.handle, batch.fragments)]) := by
        rw [BatchEvent.collected, ← hall]
        refine Collector.run_collect_all (fun hnil => ?_)
        rw [hnil, length_nil] at hall
        exact hevent.someChild (length_eq_zero_iff.mp hall.symm)
      refine ⟨server', ?_, ?_⟩
      · rw [runBatches, foldlM_cons, happly]
        exact hrun
      · rw [hsent, hsent₁, Runs.run_cons, hcollected, map_append, append_assoc]
        rfl

/-- **Batches are aggregated.** When every batch request of a run is one that is aggregated,
exactly the responses that are owed are sent, in this order, and the run does nothing that
is undefined. -/
theorem batches_aggregated {rb : ResponseTree} (hrb : rb.Correct)
    {uninit : ℕ → Option CString} {converts : OCPayloadFormat → List HeapPayload → Bool}
    {events : List BatchEvent} (h : ∀ event ∈ events, event.IsAggregated uninit converts) :
    ∃ server, runBatches rb uninit converts .initial events = some server
      ∧ server.sent = owedResponses uninit events :=
  runBatches_spec hrb h rfl _

/-! ## Slow children -/

def leafTree : ResponseTree where
  insert := insertAt
  remove response tree :=
    match tree with
    | .node root .nil .nil => if root = response then .nil else tree
    | tree => tree
where
  insertAt (cmp : OCServerResponse → Option Ordering) (response : OCServerResponse) :
      BinaryTree OCServerResponse → Option (BinaryTree OCServerResponse)
    | .nil => some (.node response .nil .nil)
    | .node root left right =>
      match cmp root with
      | none => none
      | some .lt => (insertAt cmp response left).map (.node root · right)
      | some .gt => (insertAt cmp response right).map (.node root left ·)
      | some .eq => some (.node root left right)

lemma leafTree_correct : leafTree.Correct where
  insert_nil _ _ := rfl
  remove_only _ := if_pos rfl

def emptyFragment : HeapPayload := .mk none [] [] []

def batchOf (handle : ℕ) (children : List ChildTurn) : BatchRequest :=
  ⟨handle, ⟨.get, .const "/a", ⟨[], Coap.CString.noNul_nil⟩, [], .high, 2, [],
    ⟨1, Coap.addrOne, 1⟩, [5], 7⟩, .cbor, children⟩

def emptyView : MemoryView := ⟨fun _ => [], [], .nil⟩

def promptBatches : List BatchEvent :=
  [.batch (batchOf 1 [⟨some emptyFragment, .ok⟩, ⟨some emptyFragment, .ok⟩]) emptyView,
    .batch (batchOf 2 [⟨some emptyFragment, .ok⟩]) emptyView]

theorem promptBatches_aggregated :
    ∃ server, runBatches leafTree (fun _ => none) (fun _ _ => true) .initial promptBatches
        = some server
      ∧ server.sent = owedResponses (fun _ => none) promptBatches := by
  refine batches_aggregated leafTree_correct ?_
  intro event hevent
  rw [promptBatches, mem_pair] at hevent
  obtain rfl | rfl := hevent
  · exact ⟨by decide, by simp [batchOf], by decide, rfl, rfl, rfl⟩
  · exact ⟨by decide, by simp [batchOf], by decide, rfl, rfl, rfl⟩

def slowBatch : List BatchEvent :=
  [.batch (batchOf 1 [⟨none, .slow⟩, ⟨some emptyFragment, .ok⟩]) emptyView,
    .late 1 emptyFragment emptyView]

theorem slowBatch_answered_twice :
    ∃ server, runBatches leafTree (fun _ => none) (fun _ _ => true) .initial slowBatch = some server
      ∧ server.sent = .direct 1 .invalidParam :: owedResponses (fun _ => none) slowBatch
      ∧ server.sent ≠ owedResponses (fun _ => none) slowBatch := by
  refine ⟨_, rfl, rfl, fun h => ?_⟩
  have hlength := congrArg List.length h
  exact absurd hlength (by decide)

def HandlerTurn.isFragment (child : HandlerTurn) : Bool :=
  child.response.any (fun response => response.payload.any ResponsePayload.isRepresentation)

def RespondInTime (missing : ℕ) : List HandlerTurn → Prop
  | [] => True
  | child :: children =>
    (child.response ≠ none → 0 < missing)
      ∧ RespondInTime (missing - if child.isFragment then 1 else 0) children

def batchSize (children : ℕ) : ℕ := (children + 255) % 256 + 1

/-- **A batch.** No child is slow, none responds after the last fragment that is waited for,
and with that the freed request is not freed again. -/
def BatchAnswersOnce (world : RequestWorld) (serverRequest : AggregatedRequest) : Prop :=
  (∀ child ∈ world.children, child.ehResult ≠ .slow)
    ∧ RespondInTime (batchSize world.children.length) world.children
    ∧ (world.children.countP HandlerTurn.isFragment = batchSize world.children.length →
        failsToConvert serverRequest.acceptFormat (some ⟨true, world.aggregateConverts⟩) = true
          ∨ world.freesAgain = false)

/-! ## Responses of children -/

section Batch

variable {world : RequestWorld} {observationOption : UInt32} {answering : Answering}
  {serverRequest : AggregatedRequest}

structure BatchOpen (answering : Answering) (serverRequest : AggregatedRequest) (missing : ℕ) :
    Prop where
  fresh : answering.Fresh serverRequest
  aggregates : answering.aggregates = true
  counted : serverRequest.numResponses = ofNat missing
  some : 0 < missing
  bounded : missing ≤ 256

def endsCleanly (world : RequestWorld) (serverRequest : AggregatedRequest) : Bool :=
  failsToConvert serverRequest.acceptFormat (some ⟨true, world.aggregateConverts⟩)
    || !world.freesAgain

variable {missing : ℕ}

lemma counted_last (hsome : 0 < missing) (hbounded : missing ≤ 256) :
    ofNat missing - 1 = 0 ↔ missing = 1 := by
  obtain ⟨left, rfl⟩ : ∃ left, missing = left + 1 := ⟨missing - 1, by omega⟩
  rw [ofNat_succ_sub_one]
  constructor
  · intro hzero
    by_contra hmore
    exact ofNat_ne_zero (by omega) (by omega) hzero
  · intro hone
    obtain rfl : left = 0 := by omega
    rfl

lemma ofNat_sub_one (hsome : 0 < missing) :
    ofNat missing - 1 = ofNat (missing - 1) := by
  obtain ⟨left, rfl⟩ : ∃ left, missing = left + 1 := ⟨missing - 1, by omega⟩
  exact ofNat_succ_sub_one left

def afterChild (result : OCStackResult) (ehResult : OCEntityHandlerResult)
    (answering : Answering) : Option (OCStackResult × Answering) :=
  if ehResult = .slow then
    answering.request.map (fun serverRequest =>
      (.slowResource, { answering with request := some { serverRequest with slowFlag := true } }))
  else some (if result = .slowResource then .slowResource else .ok, answering)

lemma childTurn_eq (result : OCStackResult) (child : HandlerTurn) :
    childTurn world (result, answering) child
      = (child.response.elim (some answering) (fun response =>
          (ocDoResponse world response answering).map Prod.snd)).bind
            (afterChild result child.ehResult) := by
  unfold childTurn
  rw [bind_eq_bind]
  congr 1
  funext answering'
  unfold afterChild
  cases answering'.request <;> rfl

variable (world) in
lemma batch_response (h : BatchOpen answering serverRequest missing)
    (response : OCEntityHandlerResponse) :
    if response.payload.any ResponsePayload.isRepresentation = true then
      if missing = 1 then
        if endsCleanly world serverRequest = true then
          ∃ result ended, ocDoResponse world response answering = some (result, ended)
            ∧ ended.request = none ∧ ended.late = none ∧ ended.sent.length ≤ 1
        else ocDoResponse world response answering = none
      else ∃ result counted, ocDoResponse world response answering = some (result, counted)
          ∧ BatchOpen counted { serverRequest with numResponses := ofNat (missing - 1) }
              (missing - 1)
    else ∃ result, ocDoResponse world response answering = some (result, answering) := by
  have htakes := ocDoResponse_fate world h.fresh.request response
  have hlast := counted_last h.some h.bounded
  rw [← h.counted] at hlast
  unfold responseFate at htakes
  rw [if_pos h.aggregates] at htakes
  -- a response that is refused leaves the request as it is
  have hrefused : ∀ result : OCStackResult, result ≠ .ok →
      TakesResponse world serverRequest response answering (.kept result) →
        ∃ result, ocDoResponse world response answering = some (result, answering) := by
    intro result hresult hkept
    unfold TakesResponse at hkept
    dsimp only at hkept
    rw [if_neg hresult] at hkept
    refine ⟨result, hkept.trans ?_⟩
    rw [← h.fresh.request]
  cases hpayload : response.payload with
  | none =>
    rw [hpayload] at htakes
    rw [any_none, if_neg (by decide)]
    exact hrefused _ (by decide) htakes
  | some payload =>
    rw [hpayload] at htakes
    dsimp only at htakes
    rw [any_some]
    by_cases hrepresentation : payload.isRepresentation = true
    · rw [if_neg (by rw [hrepresentation]; decide)] at htakes
      rw [if_pos hrepresentation]
      by_cases hone : missing = 1
      · rw [if_neg (not_not.mpr (hlast.mpr hone))] at htakes
        rw [if_pos hone]
        by_cases hclean : endsCleanly world serverRequest = true
        · rw [if_pos hclean]
          obtain ⟨sent, hended⟩ : ∃ sent, TakesResponse world serverRequest response answering
              (.ended sent) := by
            unfold endsCleanly at hclean
            split_ifs at htakes with hfails hagain
            · exact ⟨false, htakes⟩
            · rw [hagain, Bool.eq_false_iff.mpr hfails] at hclean
              cases hclean
            · exact ⟨world.sends, htakes⟩
          obtain ⟨ehResult, hended⟩ := hended
          refine ⟨_, _, hended, rfl, h.fresh.late, ?_⟩
          dsimp only
          rw [h.fresh.sent]
          cases sent
          · exact Nat.zero_le _
          · exact Nat.le_refl _
        rw [if_neg hclean]
        unfold endsCleanly at hclean
        rw [Bool.or_eq_true, not_or, Bool.not_eq_true'] at hclean
        rw [if_neg hclean.1, if_pos (Bool.eq_true_of_not_eq_false hclean.2)] at htakes
        exact htakes
      rw [if_pos (fun hzero => hone (hlast.mp hzero))] at htakes
      rw [if_neg hone]
      refine ⟨_, _, htakes, ⟨⟨?_, h.fresh.late, h.fresh.sent⟩, h.aggregates, rfl, ?_, ?_⟩⟩
      · dsimp only
        rw [if_pos rfl, h.counted, ofNat_sub_one h.some]
      · have hsome := h.some
        omega
      · have hbounded := h.bounded
        omega
    · rw [if_pos (Bool.eq_false_iff.mpr hrepresentation)] at htakes
      rw [if_neg hrepresentation]
      exact hrefused _ (by decide) htakes

lemma endsCleanly_congr {request request' : AggregatedRequest}
    (h : request'.acceptFormat = request.acceptFormat) :
    endsCleanly world request' = endsCleanly world request := by
  unfold endsCleanly
  rw [h]

lemma isFragment_of_some {child : HandlerTurn} {response : OCEntityHandlerResponse}
    (h : child.response = some response) :
    child.isFragment = response.payload.any ResponsePayload.isRepresentation := by
  unfold HandlerTurn.isFragment
  rw [h]
  rfl

lemma isFragment_of_none {child : HandlerTurn} (h : child.response = none) :
    child.isFragment = false := by
  unfold HandlerTurn.isFragment
  rw [h]
  rfl

variable {children : List HandlerTurn}

lemma countP_of_respondInTime_zero (h : RespondInTime 0 children) :
    (∀ child ∈ children, child.response = none) ∧ children.countP HandlerTurn.isFragment = 0 := by
  have hnone : ∀ child ∈ children, child.response = none := by
    induction children with
    | nil => exact fun child hmem => absurd hmem not_mem_nil
    | cons child children ih =>
      obtain ⟨hfirst, hrest⟩ := h
      rw [Nat.zero_sub] at hrest
      intro c hc
      obtain rfl | hc := mem_cons.mp hc
      · by_contra hresponds
        exact absurd (hfirst hresponds) (Nat.lt_irrefl 0)
      · exact ih hrest c hc
  refine ⟨hnone, countP_eq_zero.mpr (fun child hchild => ?_)⟩
  rw [isFragment_of_none (hnone child hchild)]
  decide

lemma foldlM_silent (hslow : ∀ child ∈ children, child.ehResult ≠ .slow)
    (hnone : ∀ child ∈ children, child.response = none) :
    children.foldlM (childTurn world) (.ok, answering) = some (.ok, answering) := by
  induction children with
  | nil => rfl
  | cons child children ih =>
    have hturn : childTurn world (.ok, answering) child = some (.ok, answering) := by
      rw [childTurn_eq, hnone child mem_cons_self, elim_none, bind_some]
      unfold afterChild
      simp [hslow]
    rw [foldlM_cons, hturn]
    exact ih (fun c hc => hslow c (mem_cons_of_mem _ hc))
      (fun c hc => hnone c (mem_cons_of_mem _ hc))

lemma foldlM_inTime (h : BatchOpen answering serverRequest missing)
    (hslow : ∀ child ∈ children, child.ehResult ≠ .slow) (hinTime : RespondInTime missing children)
    (hclean : children.countP HandlerTurn.isFragment = missing →
      endsCleanly world serverRequest = true) :
    ∃ done, children.foldlM (childTurn world) (.ok, answering) = some (.ok, done)
      ∧ done.late = none ∧ done.Once := by
  induction children generalizing answering serverRequest missing with
  | nil =>
    refine ⟨answering, rfl, h.fresh.late, ?_, fun hne => absurd h.fresh.sent hne⟩
    rw [h.fresh.sent]
    exact Nat.zero_le _
  | cons child children ih =>
    obtain ⟨-, hrest⟩ := hinTime
    have hslow' : ∀ c ∈ children, c.ehResult ≠ .slow :=
      fun c hc => hslow c (mem_cons_of_mem _ hc)
    have hafter : ∀ answered : Answering, afterChild .ok child.ehResult answered
        = some (.ok, answered) := by
      intro answered
      unfold afterChild
      simp [hslow]
    rw [countP_cons] at hclean
    rw [foldlM_cons, childTurn_eq]
    cases hresponse : child.response with
    | none =>
      rw [isFragment_of_none hresponse] at hrest hclean
      rw [elim_none, bind_some, hafter]
      exact ih h hslow' hrest hclean
    | some response =>
      have htakes := batch_response world h response
      rw [← isFragment_of_some hresponse] at htakes
      rw [elim_some]
      by_cases hfragment : child.isFragment = true
      · rw [if_pos hfragment] at htakes hrest hclean
        by_cases hone : missing = 1
        · -- the last one
          subst hone
          obtain ⟨hnone, hcount⟩ := countP_of_respondInTime_zero hrest
          rw [if_pos rfl, if_pos (hclean (by rw [hcount]))] at htakes
          obtain ⟨result, ended, htakes, hgone, hlate, hsent⟩ := htakes
          rw [htakes, map_some, bind_some, hafter]
          exact ⟨ended, foldlM_silent hslow' hnone, hlate, hsent, fun _ => hgone⟩
        rw [if_neg hone] at htakes
        obtain ⟨result, counted, htakes, hopen⟩ := htakes
        rw [htakes, map_some, bind_some, hafter]
        refine ih hopen hslow' hrest (fun hcount => ?_)
        have hsome := h.some
        rw [endsCleanly_congr rfl]
        exact hclean (by omega)
      rw [if_neg hfragment] at htakes hrest hclean
      obtain ⟨result, htakes⟩ := htakes
      rw [htakes, map_some, bind_some, hafter]
      exact ih h hslow' hrest hclean

variable {result : OCStackResult}

lemma afterChild_open (h : BatchOpen answering serverRequest missing) {result' : OCStackResult}
    {ehResult : OCEntityHandlerResult} {answering' : Answering}
    (hafter : afterChild result ehResult answering = some (result', answering')) :
    ∃ serverRequest', BatchOpen answering' serverRequest' missing
      ∧ serverRequest'.acceptFormat = serverRequest.acceptFormat := by
  unfold afterChild at hafter
  split_ifs at hafter
  · rw [h.fresh.request, map_some] at hafter
    cases hafter
    exact ⟨{ serverRequest with slowFlag := true }, ⟨⟨rfl, h.fresh.late, h.fresh.sent⟩,
      h.aggregates, h.counted, h.some, h.bounded⟩, rfl⟩
  · cases hafter
    exact ⟨serverRequest, h, rfl⟩
  · cases hafter
    exact ⟨serverRequest, h, rfl⟩

variable {finished : OCStackResult × Answering}

lemma respondInTime_of_gone (hgone : answering.request = none)
    (h : children.foldlM (childTurn world) (result, answering) = some finished) :
    RespondInTime 0 children := by
  induction children generalizing result with
  | nil => exact trivial
  | cons child children ih =>
    rw [foldlM_cons, childTurn_eq] at h
    cases hresponse : child.response with
    | some response =>
      rw [hresponse, elim_some, ocDoResponse_gone hgone] at h
      cases h
    | none =>
      rw [hresponse, elim_none, bind_some] at h
      unfold afterChild at h
      refine ⟨fun hne => absurd hresponse hne, ?_⟩
      rw [isFragment_of_none hresponse]
      split_ifs at h
      · rw [hgone] at h
        cases h
      · exact ih h
      · exact ih h

lemma inTime_of_foldlM (h : BatchOpen answering serverRequest missing)
    (hloop : children.foldlM (childTurn world) (result, answering) = some finished) :
    RespondInTime missing children
      ∧ (children.countP HandlerTurn.isFragment = missing →
          endsCleanly world serverRequest = true) := by
  induction children generalizing answering serverRequest missing result with
  | nil =>
    have hsome := h.some
    refine ⟨trivial, fun hcount => ?_⟩
    rw [countP_nil] at hcount
    omega
  | cons child children ih =>
    have hsome := h.some
    rw [foldlM_cons, childTurn_eq] at hloop
    rw [countP_cons]
    -- a turn after which the batch is open
    have hopen : ∀ {missing' : ℕ} {request' : AggregatedRequest} {answered : Answering},
        BatchOpen answered request' missing' →
        request'.acceptFormat = serverRequest.acceptFormat →
        (afterChild result child.ehResult answered).bind
          (children.foldlM (childTurn world) ·) = some finished →
        RespondInTime missing' children
          ∧ (children.countP HandlerTurn.isFragment = missing' →
              endsCleanly world serverRequest = true) := by
      intro missing' request' answered hbatch hformat hrest
      obtain ⟨⟨result', answered'⟩, hafter, hrest⟩ := bind_eq_some_iff.mp hrest
      obtain ⟨request'', hbatch', hformat'⟩ := afterChild_open hbatch hafter
      rw [← endsCleanly_congr (hformat'.trans hformat)]
      exact ih hbatch' hrest
    cases hresponse : child.response with
    | none =>
      rw [hresponse, elim_none, bind_some] at hloop
      rw [RespondInTime, isFragment_of_none hresponse]
      obtain ⟨hinTime, hclean⟩ := hopen h rfl hloop
      exact ⟨⟨fun hne => absurd hresponse hne, hinTime⟩, hclean⟩
    | some response =>
      have htakes := batch_response world h response
      rw [← isFragment_of_some hresponse] at htakes
      rw [hresponse, elim_some] at hloop
      rw [RespondInTime]
      by_cases hfragment : child.isFragment = true
      · rw [if_pos hfragment] at htakes
        rw [if_pos hfragment]
        by_cases hone : missing = 1
        · subst hone
          rw [if_pos rfl] at htakes
          by_cases hclean : endsCleanly world serverRequest = true
          · rw [if_pos hclean] at htakes
            obtain ⟨responded, ended, htakes, hgone, -, -⟩ := htakes
            rw [htakes, map_some, bind_some] at hloop
            unfold afterChild at hloop
            refine ⟨⟨fun _ => hsome, ?_⟩, fun _ => hclean⟩
            split_ifs at hloop
            · rw [hgone] at hloop
              cases hloop
            · exact respondInTime_of_gone hgone hloop
            · exact respondInTime_of_gone hgone hloop
          rw [if_neg hclean] at htakes
          rw [htakes] at hloop
          cases hloop
        rw [if_neg hone] at htakes
        obtain ⟨responded, counted, htakes, hbatch⟩ := htakes
        rw [htakes, map_some, bind_some] at hloop
        obtain ⟨hinTime, hclean⟩ := hopen hbatch rfl hloop
        exact ⟨⟨fun _ => hsome, hinTime⟩, fun hcount => hclean (by omega)⟩
      rw [if_neg hfragment] at htakes
      rw [if_neg hfragment]
      obtain ⟨responded, htakes⟩ := htakes
      rw [htakes, map_some, bind_some] at hloop
      obtain ⟨hinTime, hclean⟩ := hopen h rfl hloop
      exact ⟨⟨fun _ => hsome, hinTime⟩, hclean⟩

lemma aggregates_of_response {response : OCEntityHandlerResponse}
    {answered : OCStackResult × Answering}
    (h : ocDoResponse world response answering = some answered) :
    answered.2.aggregates = answering.aggregates := by
  cases hrequest : answering.request with
  | none =>
    rw [ocDoResponse_gone hrequest] at h
    cases h
  | some serverRequest =>
    have htakes := ocDoResponse_fate world hrequest response
    cases hfate : responseFate world answering.aggregates serverRequest response with
    | kept result =>
      rw [hfate] at htakes
      cases h.symm.trans htakes
      rfl
    | ended sent =>
      rw [hfate] at htakes
      obtain ⟨ehResult, htakes⟩ := htakes
      cases h.symm.trans htakes
      rfl
    | undefined =>
      rw [hfate] at htakes
      cases h.symm.trans htakes

lemma result_of_foldlM (hresult : result = .ok ∨ result = .slowResource)
    (h : children.foldlM (childTurn world) (result, answering) = some finished) :
    finished.2.aggregates = answering.aggregates
      ∧ finished.1 = (if result = .slowResource ∨ ∃ child ∈ children, child.ehResult = .slow
          then .slowResource else .ok) := by
  induction children generalizing answering result with
  | nil =>
    cases h
    refine ⟨rfl, ?_⟩
    obtain rfl | rfl := hresult <;> simp
  | cons child children ih =>
    rw [foldlM_cons, childTurn_eq] at h
    obtain ⟨⟨result', answered'⟩, hturn, hrest⟩ := bind_eq_some_iff.mp h
    obtain ⟨answered, hanswered, hafter⟩ := bind_eq_some_iff.mp hturn
    have hsame : answered.aggregates = answering.aggregates := by
      cases hresponse : child.response with
      | none =>
        rw [hresponse] at hanswered
        cases hanswered
        rfl
      | some response =>
        rw [hresponse, elim_some] at hanswered
        obtain ⟨handled, hhandled, rfl⟩ := map_eq_some_iff.mp hanswered
        exact aggregates_of_response hhandled
    unfold afterChild at hafter
    by_cases hslow : child.ehResult = .slow
    · rw [if_pos hslow] at hafter
      obtain ⟨serverRequest, -, hafter⟩ := map_eq_some_iff.mp hafter
      cases hafter
      obtain ⟨haggregates, hfinished⟩ := ih (.inr rfl) hrest
      refine ⟨haggregates.trans hsame, ?_⟩
      rw [hfinished, if_pos (.inl rfl), if_pos (.inr ⟨child, mem_cons_self, hslow⟩)]
    rw [if_neg hslow] at hafter
    cases hafter
    have hresult' : (if result = OCStackResult.slowResource then OCStackResult.slowResource
        else .ok) = result := by
      obtain rfl | rfl := hresult <;> rfl
    rw [hresult'] at hrest
    obtain ⟨haggregates, hfinished⟩ := ih hresult hrest
    refine ⟨haggregates.trans hsame, ?_⟩
    rw [hfinished]
    simp [hslow]

lemma ofNat_batchSize (children : ℕ) :
    ofNat children = ofNat (batchSize children) := by
  apply UInt8.toNat_inj.mp
  rw [toNat_ofNat', toNat_ofNat', batchSize]
  omega

lemma settled_batch (h : answering.Fresh serverRequest) :
    Settled world observationOption
        ((handleBatch world serverRequest answering).bind (badRequestUnlessOk world))
      ↔ BatchAnswersOnce world serverRequest := by
  let started : AggregatedRequest :=
    { serverRequest with numResponses := ofNat world.children.length }
  have hopen : BatchOpen { answering with request := some started, aggregates := true } started
      (batchSize world.children.length) := by
    refine ⟨⟨rfl, h.late, h.sent⟩, rfl, ofNat_batchSize _, ?_, ?_⟩
    · unfold batchSize
      omega
    · unfold batchSize
      omega
  have hclean : endsCleanly world started = true
      ↔ failsToConvert serverRequest.acceptFormat (some ⟨true, world.aggregateConverts⟩) = true
        ∨ world.freesAgain = false := by
    unfold endsCleanly
    rw [Bool.or_eq_true, Bool.not_eq_true']
  unfold BatchAnswersOnce
  rw [← hclean]
  constructor
  · rintro ⟨finished, hfinished, honce, -⟩
    obtain ⟨handled, hhandled, rfl⟩ := map_eq_some_iff.mp hfinished
    obtain ⟨looped, hloop, hanswered⟩ := bind_eq_some_iff.mp hhandled
    obtain ⟨hinTime, hcount⟩ := inTime_of_foldlM hopen hloop
    obtain ⟨haggregates, hresult⟩ := result_of_foldlM (.inl rfl) hloop
    refine ⟨fun child hchild hslow => ?_, hinTime, hcount⟩
    -- a slow child makes the collection answer, and the answer is refused
    rw [if_pos (.inr ⟨child, hchild, hslow⟩)] at hresult
    unfold badRequestUnlessOk at hanswered
    rw [hresult, if_neg (by decide)] at hanswered
    cases hrequest : looped.2.request with
    | none =>
      rw [ocDoResponse_gone hrequest] at hanswered
      cases hanswered
    | some left =>
      have htakes := ocDoResponse_fate world hrequest ⟨.badReq, none⟩
      rw [fate_without_payload, haggregates, if_pos rfl] at htakes
      cases hanswered.symm.trans htakes
      have hgone := honce.2
      dsimp only at hgone
      rw [finishRequest_eq (by decide), if_neg (by decide)] at hgone
      have hnone := hgone (append_ne_nil_of_right_ne_nil _ (cons_ne_nil _ _))
      cases hnone
  · rintro ⟨hslow, hinTime, hcount⟩
    obtain ⟨done, hloop, hlate, honce⟩ := foldlM_inTime hopen hslow hinTime hcount
    unfold handleBatch
    rw [hloop, bind_some, badRequestUnlessOk_ok, settled_some hlate (by decide),
      finishRequest_eq (by decide)]
    exact honce

end Batch

end Iochibity.Ocf
