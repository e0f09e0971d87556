import FlexRic.Library.Checked

/-! # The assertions a run can hit -/

namespace FlexRic

/-- The checks of the modelled code that a run may fail. A failed one ends the
    process. -/
inductive Assertion where
  /-- `"Trying to extract a key not found in the tree"` -/
  | keyNotInTree
  /-- `cmp == 0` at the end of an extraction from a two-way map -/
  | bimapOtherKey
  /-- `"Mismatch in the ds"`, and `sz_1 == sz_2` after an extraction -/
  | bimapSizes
  /-- `tfd != -1`: the system gave no timer -/
  | timerfdCreate
  /-- `rc != -1` of `epoll_ctl`: the descriptor is not watched -/
  | epollCtl
  /-- `*fd > 0`, `fd > 0` -/
  | fdPositive
  /-- `it != end_it` in `pend_event` -/
  | fdNotPending
  /-- `"E2 Node not found in the tree"` -/
  | e2NodeNotInTree
  /-- `"E2 Node not found!"` -/
  | e2NodeNotConnected
  /-- `"No other case implemented"` -/
  | noOtherCaseImplemented
  /-- `ran_func_id > 0 && "Reserved value"` -/
  | reservedRanFunc
  /-- `"RAN function ID not found in the RAN"` -/
  | ranFuncNotFound
  /-- `"Unknown RAN function ID from the agent received"` -/
  | unknownRanFunc
  /-- `req->len_cca > 0 && req->len_cca < 1025` -/
  | lenCcaRange
  /-- `"Only these types supported"` -/
  | componentType
  /-- `src->f1_gnb_du_id < (1UL << 36)` -/
  | gnbDuIdRange
  /-- `len > 0`, `len_rf > 0` -/
  | noRanFunc
  /-- `"Trying to add an already existing E2 Node"` -/
  | e2NodeExists
  /-- `"Not registed e2 Node passed"` -/
  | e2NodeNotRegistered
  /-- `"xApp ID already registered in the tree"` -/
  | xappIdRegistered
  /-- `"xApp ID not found in the tree"` -/
  | xappIdNotFound
  /-- `"SCTP info not found in the tree"` -/
  | sctpInfoNotFound
  /-- `valid_xapp_id(iapp, xapp_id) == true` -/
  | invalidXappId
  /-- `valid_global_e2_node(iapp, &id)` -/
  | invalidGlobalE2Node
  /-- `"RIC Req Id not found!"` -/
  | ricReqIdNotFound
  /-- `src->ric_id.ran_func_id == x.ric_id.ran_func_id` -/
  | ranFuncDiffers
  /-- `src->ric_id.ric_inst_id == x.ric_id.ric_inst_id` -/
  | ricInstDiffers
  /-- `n.ric_req_type == SUBSCRIPTION_RIC_REQUEST_TYPE` -/
  | notSubscription
  /-- `"ric_req_id already in the map"` -/
  | ricReqIdInMap
  /-- `ric_req_id > 0` -/
  | ricReqIdZero
  /-- `"Not found xApp RIC ID "` -/
  | xappRicIdNotFound
  /-- `"Only one action supported"` -/
  | oneActionOnly
  /-- `"Only report supported"` -/
  | reportOnly
  /-- `"Subscription for granularity larger than 10 seconds requested? "` -/
  | granularity
  /-- `initial_ms > -1` -/
  | intervalNegative
  /-- `bi_map_size(&ag->pending) == 1` -/
  | pendingNotOne
  /-- `"Unforeseen pending event happened!"` -/
  | unforeseenPending
  /-- `ag->trans_id_setup_req > 0` when a setup response is received -/
  | setupNotRequested
  /-- `"Not found RIC Request ID"` -/
  | ricRequestNotFound
  /-- `"Aperiodic Event detected but the queue is empty!"` -/
  | aindQueueEmpty
  /-- `"No bytes in the pipe but message in the queue! "` -/
  | noBytesInPipe
  /-- `"Overflow reached!"` in a registry -/
  | regKeyOverflow
  /-- `key > 0 && "Reserved value"` -/
  | reservedKey
  /-- `"iterator out of the range"` -/
  | regRange
  /-- `"Iterator out of range"` -/
  | regIterator
  /-- `b->has_value == true` at an iterator of a registry -/
  | regNoValue
  /-- `reg->cap >= reg->occ_bucket`, `reg->cap >= reg->sz` -/
  | regCapacity
  /-- `b->key > last_key` -/
  | regKeyOrder
  /-- `counter == reg->sz` -/
  | regCounter
  /-- `"ric_req_id key value not found in the registry"` -/
  | actProcNotFound
  /-- `"ric_req_id not registered in the registry"`, `"ric_req_id not registered"` -/
  | ricReqIdNotRegistered
  /-- `valid_ran_func_id(ran_func_id) == true` -/
  | invalidRanFuncId
  /-- `"Overflow detected"` -/
  | ricReqIdOverflow
  /-- `ric_req_id > -1 && ric_req_id < 1 << 16` -/
  | handleRange
  /-- `ev->wait_ms > 0` -/
  | waitMsPositive
  /-- `sz == bi_map_size(&p->pending) + 1` -/
  | pendingSizes
  /-- `"No response to subscription from the RIC received\n"` -/
  | noMsgAck
  /-- `"Timeout. No response from the E2 Node received, and neither from epoll. …"` -/
  | answerTimeout
  /-- `"Could not find a RAN function that matches the SM"` -/
  | ranFuncNotPublished
  /-- The assertion on the type that `on_indication` gave. -/
  | indicationType
  deriving DecidableEq, Repr

/-- A function of the source that asserts on its way. -/
abbrev Checked (α : Type) := Except Assertion α

end FlexRic
