import FlexRic.Library.Wire

/-! # Indications of the statistics service models

MAC, RLC, PDCP and GTP report records of numbers, copied as they lie in memory, and a time
stamp. The four writers and the four readers were written one by one.
-/

namespace FlexRic.Stats

open Wire

/-- `mac_ue_stats_impl_t`. -/
def macUeStatsImpl : List Field :=
  [⟨"dl_aggr_tbs", 8, 1⟩, ⟨"ul_aggr_tbs", 8, 1⟩, ⟨"dl_aggr_bytes_sdus", 8, 1⟩,
    ⟨"ul_aggr_bytes_sdus", 8, 1⟩, ⟨"dl_curr_tbs", 8, 1⟩, ⟨"ul_curr_tbs", 8, 1⟩,
    ⟨"dl_sched_rb", 8, 1⟩, ⟨"ul_sched_rb", 8, 1⟩, ⟨"pusch_snr", 4, 1⟩, ⟨"pucch_snr", 4, 1⟩,
    ⟨"dl_bler", 4, 1⟩, ⟨"ul_bler", 4, 1⟩, ⟨"dl_harq", 4, 5⟩, ⟨"ul_harq", 4, 5⟩,
    ⟨"dl_num_harq", 4, 1⟩, ⟨"ul_num_harq", 4, 1⟩, ⟨"rnti", 4, 1⟩, ⟨"dl_aggr_prb", 4, 1⟩,
    ⟨"ul_aggr_prb", 4, 1⟩, ⟨"dl_aggr_sdus", 4, 1⟩, ⟨"ul_aggr_sdus", 4, 1⟩,
    ⟨"dl_aggr_retx_prb", 4, 1⟩, ⟨"ul_aggr_retx_prb", 4, 1⟩, ⟨"bsr", 4, 1⟩, ⟨"frame", 2, 1⟩,
    ⟨"slot", 2, 1⟩, ⟨"wb_cqi", 1, 1⟩, ⟨"dl_mcs1", 1, 1⟩, ⟨"ul_mcs1", 1, 1⟩, ⟨"dl_mcs2", 1, 1⟩,
    ⟨"ul_mcs2", 1, 1⟩, ⟨"phr", 1, 1⟩]

/-- `rlc_radio_bearer_stats_t`. -/
def rlcRadioBearerStats : List Field :=
  [⟨"txpdu_pkts", 4, 1⟩, ⟨"txpdu_bytes", 4, 1⟩, ⟨"txpdu_wt_ms", 4, 1⟩, ⟨"txpdu_dd_pkts", 4, 1⟩,
    ⟨"txpdu_dd_bytes", 4, 1⟩, ⟨"txpdu_retx_pkts", 4, 1⟩, ⟨"txpdu_retx_bytes", 4, 1⟩,
    ⟨"txpdu_segmented", 4, 1⟩, ⟨"txpdu_status_pkts", 4, 1⟩, ⟨"txpdu_status_bytes", 4, 1⟩,
    ⟨"txbuf_occ_bytes", 4, 1⟩, ⟨"txbuf_occ_pkts", 4, 1⟩, ⟨"rxpdu_pkts", 4, 1⟩,
    ⟨"rxpdu_bytes", 4, 1⟩, ⟨"rxpdu_dup_pkts", 4, 1⟩, ⟨"rxpdu_dup_bytes", 4, 1⟩,
    ⟨"rxpdu_dd_pkts", 4, 1⟩, ⟨"rxpdu_dd_bytes", 4, 1⟩, ⟨"rxpdu_ow_pkts", 4, 1⟩,
    ⟨"rxpdu_ow_bytes", 4, 1⟩, ⟨"rxpdu_status_pkts", 4, 1⟩, ⟨"rxpdu_status_bytes", 4, 1⟩,
    ⟨"rxbuf_occ_bytes", 4, 1⟩, ⟨"rxbuf_occ_pkts", 4, 1⟩, ⟨"txsdu_pkts", 4, 1⟩,
    ⟨"txsdu_bytes", 8, 1⟩, ⟨"txsdu_avg_time_to_tx", 8, 1⟩, ⟨"txsdu_wt_us", 4, 1⟩,
    ⟨"rxsdu_pkts", 4, 1⟩, ⟨"rxsdu_bytes", 8, 1⟩, ⟨"rxsdu_dd_pkts", 4, 1⟩,
    ⟨"rxsdu_dd_bytes", 4, 1⟩, ⟨"rnti", 4, 1⟩, ⟨"mode", 1, 1⟩, ⟨"rbid", 1, 1⟩]

/-- `pdcp_radio_bearer_stats_t`. -/
def pdcpRadioBearerStats : List Field :=
  [⟨"txpdu_pkts", 4, 1⟩, ⟨"txpdu_bytes", 4, 1⟩, ⟨"txpdu_sn", 4, 1⟩, ⟨"rxpdu_pkts", 4, 1⟩,
    ⟨"rxpdu_bytes", 4, 1⟩, ⟨"rxpdu_sn", 4, 1⟩, ⟨"rxpdu_oo_pkts", 4, 1⟩, ⟨"rxpdu_oo_bytes", 4, 1⟩,
    ⟨"rxpdu_dd_pkts", 4, 1⟩, ⟨"rxpdu_dd_bytes", 4, 1⟩, ⟨"rxpdu_ro_count", 4, 1⟩,
    ⟨"txsdu_pkts", 4, 1⟩, ⟨"txsdu_bytes", 4, 1⟩, ⟨"rxsdu_pkts", 4, 1⟩, ⟨"rxsdu_bytes", 4, 1⟩,
    ⟨"rnti", 4, 1⟩, ⟨"mode", 1, 1⟩, ⟨"rbid", 1, 1⟩]

/-- `gtp_ngu_t_stats_t`. -/
def gtpNguTStats : List Field :=
  [⟨"rnti", 4, 1⟩, ⟨"teidgnb", 4, 1⟩, ⟨"qfi", 1, 1⟩, ⟨"teidupf", 1, 1⟩]

/-- `mac_ind_msg_t`, `rlc_ind_msg_t`, `pdcp_ind_msg_t` and `gtp_ind_msg_t`, each with its
    records. -/
structure IndMsg (fields : List Field) where
  stats : Counted (Record fields)
  tstamp : Int64

abbrev MacIndMsg := IndMsg macUeStatsImpl

abbrev RlcIndMsg := IndMsg rlcRadioBearerStats

abbrev PdcpIndMsg := IndMsg pdcpRadioBearerStats

abbrev GtpIndMsg := IndMsg gtpNguTStats

/-- `rlc_ind_msg_t` itself, and `gtp_ind_msg_t`. -/
def indMsgFields : List Field := [⟨"rb", 8, 1⟩, ⟨"len", 4, 1⟩, ⟨"tstamp", 8, 1⟩]

variable {fields : List Field}

/-- The size of what is written, as a number of type `size_t`. -/
def IndMsg.size (indMsg : IndMsg fields) : Nat :=
  4 + byteSize fields * indMsg.stats.len.toNat + 8

/-- A message is written into `sz` bytes. -/
def fillIndMsg (indMsg : IndMsg fields) (sz : Nat) : Except Fault Bytes :=
  writeAll sz <|
    u32 indMsg.stats.len ++ writeMany List.Vector.toList indMsg.stats.items ++ i64 indMsg.tstamp

/-- The size is a number of 32 bits here. -/
def macEncIndMsgPlain (indMsg : MacIndMsg) : Except Fault Bytes :=
  fillIndMsg indMsg (UInt32.ofNat indMsg.size).toNat

def rlcEncIndMsgPlain (indMsg : RlcIndMsg) : Except Fault Bytes := fillIndMsg indMsg indMsg.size

def pdcpEncIndMsgPlain (indMsg : PdcpIndMsg) : Except Fault Bytes := fillIndMsg indMsg indMsg.size

def gtpEncIndMsgPlain (indMsg : GtpIndMsg) : Except Fault Bytes := fillIndMsg indMsg indMsg.size

/-- What all four readers take. -/
def readIndMsg : Reader (IndMsg fields) := do
  let stats ← readCounted (readMany readU8 (byteSize fields))
  let tstamp ← readI64
  pure { stats, tstamp }

def nextPow2 (x : UInt64) : UInt64 :=
  let x := x - 1
  let x := x ||| (x >>> 1)
  let x := x ||| (x >>> 2)
  let x := x ||| (x >>> 4)
  let x := x ||| (x >>> 8)
  let x := x ||| (x >>> 16)
  let x := x ||| (x >>> 32)
  x + 1

/-- Less bytes than without any record. -/
def enoughBytes (len : Nat) : Except Fault Unit :=
  check (byteSize indMsgFields - 8 ≤ (nextPow2 (.ofNat len)).toNat) .mismatch

def macDecIndMsgPlain (indMsg : Bytes) : Except Fault MacIndMsg := readAll readIndMsg indMsg

def rlcDecIndMsgPlain (indMsg : Bytes) : Except Fault RlcIndMsg := do
  enoughBytes indMsg.length
  readAll readIndMsg indMsg

def pdcpDecIndMsgPlain (indMsg : Bytes) : Except Fault PdcpIndMsg := do
  check (4 + 8 ≤ indMsg.length) .mismatch
  readAll readIndMsg indMsg

def gtpDecIndMsgPlain (indMsg : Bytes) : Except Fault GtpIndMsg := do
  enoughBytes indMsg.length
  readAll readIndMsg indMsg

end FlexRic.Stats
