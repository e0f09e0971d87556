import FlexRic.Kpm.FunctionDef
import FlexRic.Kpm.PartsRoundTrip

/-! # The definition of the KPM RAN function survives its codec

All that the formats say comes back. The function that compares definitions does not
see it where a measurement has an id, since it compares pointers.
-/

namespace FlexRic.Kpm

open Asn (Fault)
open E2sm (LengthFits longOf16 low16 low16_longOf16 octetStringFromBuf
  octetStringFromBuf_back_iff)
open Wire (Bytes)

structure RanFunctionNameKept (src : RanFunctionName) : Prop where
  name : LengthFits src.name
  oid : LengthFits src.oid
  description : LengthFits src.description

theorem ranFunctionName_back_iff (src : RanFunctionName) :
    (∃ asn, encRanFunctionName src = .ok asn ∧ decRanFunctionName asn = src) ↔
      RanFunctionNameKept src := by
  obtain ⟨name, oid, description, instanceId⟩ := src
  simp only [encRanFunctionName, decRanFunctionName, bind_eq_ok, pure_eq_ok,
    RanFunctionName.mk.injEq]
  constructor
  · rintro ⟨_, ⟨_, third, _, second, _, first, rfl⟩, rfl, rfl, rfl, -⟩
    exact
      { name := (octetStringFromBuf_back_iff _).mp first
        oid := (octetStringFromBuf_back_iff _).mp second
        description := (octetStringFromBuf_back_iff _).mp third }
  · rintro ⟨first, second, third⟩
    exact ⟨_, ⟨description, (octetStringFromBuf_back_iff _).mpr third, oid,
      (octetStringFromBuf_back_iff _).mpr second, name, (octetStringFromBuf_back_iff _).mpr first,
      rfl⟩, rfl, rfl, rfl, rfl⟩

theorem eventTriggerStyle_back_iff (src : EventTriggerStyleItem) :
    (encEventTriggerStyle src >>= decEventTriggerStyle) = .ok src ↔ LengthFits src.styleName := by
  obtain ⟨styleType, styleName, formatType⟩ := src
  cases styleType
  cases formatType
  rw [← octetStringFromBuf_back_iff]
  simp only [encEventTriggerStyle, decEventTriggerStyle, bind_eq_ok, check_eq_ok, pure_eq_ok,
    EventTriggerStyleItem.mk.injEq, true_and, and_true]
  constructor
  · rintro ⟨_, ⟨_, taken, rfl⟩, _, -, rfl⟩
    exact taken
  · intro taken
    exact ⟨_, ⟨styleName, taken, rfl⟩, (), rfl, rfl⟩

structure MeasInfoForActionKept (src : MeasInfoForAction UInt16) : Prop where
  name : LengthFits src.name
  binRangeDef : src.binRangeDef = none

@[simp] theorem ids_back (o : Option UInt16) : (o.map longOf16).map low16 = o := by
  cases o with
  | none => rfl
  | some id => exact congrArg some (low16_longOf16 id)

theorem measInfoForAction_back_iff (src : MeasInfoForAction UInt16) :
    (encMeasInfoForAction src >>= decMeasInfoForAction) = .ok src ↔ MeasInfoForActionKept src := by
  obtain ⟨name, id, binRangeDef⟩ := src
  simp only [encMeasInfoForAction, decMeasInfoForAction, bind_eq_ok, check_eq_ok, pure_eq_ok,
    MeasInfoForAction.mk.injEq]
  constructor
  · rintro ⟨_, ⟨_, taken, _, absent, rfl⟩, _, -, rfl, -, -⟩
    exact ⟨(octetStringFromBuf_back_iff _).mp taken, absent⟩
  · rintro ⟨fits, absent⟩
    exact ⟨_, ⟨name, (octetStringFromBuf_back_iff _).mpr fits, (), absent, rfl⟩, (), rfl, rfl,
      ids_back id, absent.symm⟩

@[simp] theorem styleNumbers_back (type : RicServiceReport) :
    decReportStyleType (styleNumbers type).1 = .ok type := by
  cases type <;> rfl

/-- What of a report style comes back: its formats are those of its style. -/
structure ReportStyleKept (src : ReportStyleItem UInt16) : Prop where
  reportStyleName : LengthFits src.reportStyleName
  formats : (src.actDefFormatType, src.indHdrFormatType, src.indMsgFormatType) =
    styleFormats src.reportStyleType
  count : 1 ≤ src.measInfoForActionLst.length ∧
    src.measInfoForActionLst.length ≤ maxnoofMeasurementInfo
  measInfoForActionLst : ∀ info ∈ src.measInfoForActionLst, MeasInfoForActionKept info

theorem reportStyle_back_iff (src : ReportStyleItem UInt16) :
    (encReportStyle src >>= decReportStyle) = .ok src ↔ ReportStyleKept src := by
  obtain ⟨type, name, action, infos, hdr, msg⟩ := src
  cases hdr
  simp only [encReportStyle, decReportStyle, bind_eq_ok, pure_eq_ok, ReportStyleItem.mk.injEq,
    true_and]
  constructor
  · rintro ⟨_, ⟨_, nameTaken, asn, taken, rfl⟩, _, -, _, back, rfl, rfl, rfl, rfl, rfl⟩
    obtain ⟨count, each⟩ := (within_kept_iff measInfoForAction_back_iff).mp ⟨asn, taken, back⟩
    exact
      { reportStyleName := (octetStringFromBuf_back_iff _).mp nameTaken
        formats := rfl
        count := count
        measInfoForActionLst := each }
  · rintro ⟨nameFits, formats, count, each⟩
    obtain ⟨asn, taken, back⟩ := (within_kept_iff measInfoForAction_back_iff).mpr ⟨count, each⟩
    have actions : (styleFormats type).1 = action := congrArg Prod.fst formats.symm
    have messages : (styleFormats type).2.2 = msg := congrArg (·.2.2) formats.symm
    exact ⟨_, ⟨name, (octetStringFromBuf_back_iff _).mpr nameFits, asn, taken, rfl⟩, type,
      styleNumbers_back type, infos, back, rfl, rfl, actions, rfl, messages⟩

/-- There are some styles, and not too many. -/
def StylesFit {α : Type} (lst : List α) : Prop := 1 ≤ lst.length ∧ lst.length ≤ maxnoofRicStyles

theorem eventTriggerStyles_back_iff (o : Option (List EventTriggerStyleItem)) :
    (∃ p, o.mapM (mapMWithin 0 maxnoofRicStyles .bound encEventTriggerStyle) = .ok p ∧
      p.mapM (mapMWithin 1 maxnoofRicStyles .bound decEventTriggerStyle) = .ok o) ↔
      ∀ lst ∈ o, StylesFit lst ∧ ∀ style ∈ lst, LengthFits style.styleName := by
  apply optional_kept_iff
  intro lst
  rw [bind_eq_ok]
  refine (withins_kept_iff eventTriggerStyle_back_iff).trans ?_
  constructor
  · rintro ⟨-, fits, each⟩
    exact ⟨fits, each⟩
  · rintro ⟨fits, each⟩
    exact ⟨⟨Nat.zero_le _, fits.2⟩, fits, each⟩

/-- A list of no styles is taken for an absent one. -/
theorem reportStyles_back_iff (o : Option (List (ReportStyleItem UInt16))) :
    (∃ p, o.mapM encReportStyles = .ok p ∧
      p.join.mapM (mapMWithin 1 maxnoofRicStyles .bound decReportStyle) = .ok o) ↔
      ∀ lst ∈ o, StylesFit lst ∧ ∀ style ∈ lst, ReportStyleKept style := by
  cases o with
  | none => exact iff_of_true ⟨none, rfl, rfl⟩ nofun
  | some lst =>
      simp only [mapM_some_eq_ok, encReportStyles, bind_eq_ok, pure_eq_ok, Option.mem_def,
        Option.some.injEq, forall_eq']
      constructor
      · rintro ⟨_, ⟨_, ⟨asn, taken, rfl⟩, rfl⟩, back⟩
        by_cases empty : lst = []
        · rw [if_pos empty] at back
          cases back
        · rw [if_neg empty, Option.join_some, mapM_some_eq_ok] at back
          obtain ⟨same, back, here⟩ := back
          obtain rfl := Option.some.inj here
          exact ((withins_kept_iff reportStyle_back_iff).mp ⟨asn, taken, back⟩).2
      · rintro ⟨fits, each⟩
        obtain ⟨asn, taken, back⟩ :=
          (withins_kept_iff reportStyle_back_iff).mpr ⟨⟨Nat.zero_le _, fits.2⟩, fits, each⟩
        have filled : lst ≠ [] := List.length_pos_iff.mp fits.1
        refine ⟨_, ⟨_, ⟨asn, taken, rfl⟩, rfl⟩, ?_⟩
        rw [if_neg filled, Option.join_some]
        exact mapM_some_eq_ok.mpr ⟨lst, back, rfl⟩

/-- What of a definition comes back. -/
structure FuncDefKept (src : KpmRanFunctionDef UInt16) : Prop where
  name : RanFunctionNameKept src.name
  ricEventTriggerStyleList : ∀ lst ∈ src.ricEventTriggerStyleList,
    StylesFit lst ∧ ∀ style ∈ lst, LengthFits style.styleName
  ricReportStyleList : ∀ lst ∈ src.ricReportStyleList,
    StylesFit lst ∧ ∀ style ∈ lst, ReportStyleKept style

theorem funcDef_back_iff (src : KpmRanFunctionDef UInt16) :
    (funcDefUnit src >>= funcDefOf) = .ok src ↔ FuncDefKept src := by
  obtain ⟨name, triggers, reports⟩ := src
  simp only [funcDefUnit, funcDefOf, bind_eq_ok, pure_eq_ok, KpmRanFunctionDef.mk.injEq]
  constructor
  · rintro ⟨_, ⟨nameAsn, nameTaken, triggersAsn, triggersTaken, reportsAsn, reportsTaken, rfl⟩, _,
      triggersBack, _, reportsBack, nameBack, rfl, rfl⟩
    exact
      { name := (ranFunctionName_back_iff _).mp ⟨nameAsn, nameTaken, nameBack⟩
        ricEventTriggerStyleList :=
          (eventTriggerStyles_back_iff _).mp ⟨triggersAsn, triggersTaken, triggersBack⟩
        ricReportStyleList :=
          (reportStyles_back_iff _).mp ⟨reportsAsn, reportsTaken, reportsBack⟩ }
  · rintro ⟨nameKept, triggersKept, reportsKept⟩
    obtain ⟨nameAsn, nameTaken, nameBack⟩ := (ranFunctionName_back_iff name).mpr nameKept
    obtain ⟨triggersAsn, triggersTaken, triggersBack⟩ :=
      (eventTriggerStyles_back_iff triggers).mpr triggersKept
    obtain ⟨reportsAsn, reportsTaken, reportsBack⟩ :=
      (reportStyles_back_iff reports).mpr reportsKept
    exact ⟨_, ⟨nameAsn, nameTaken, triggersAsn, triggersTaken, reportsAsn, reportsTaken, rfl⟩,
      triggers, triggersBack, reports, reportsBack, nameBack, rfl, rfl⟩

/-- The ids of a definition, where they lie. -/
def StoredFunctionDef.ids (src : StoredFunctionDef) : List (Pointer UInt16) :=
  (items src.ricReportStyleList).flatMap fun style => style.measInfoForActionLst.filterMap (·.id)

/-- No id of one definition lies where one of the other does. -/
def Apart (m0 m1 : StoredFunctionDef) : Prop := ∀ p ∈ m0.ids, ∀ q ∈ m1.ids, p.addr ≠ q.addr

/-- A loop over two lists that agree in what `f` sees compares them item by item. -/
theorem eqLst_eq {α β : Type} {eq : α → α → Except Fault Bool} {f : α → β} (Same : α → Prop)
    [DecidablePred Same] {as bs : List α} (agree : as.map f = bs.map f)
    (each : ∀ a ∈ as, ∀ b ∈ bs, f a = f b → eq a b = .ok (decide (Same a))) :
    eqLst eq as bs = .ok (decide (∀ a ∈ as, Same a)) := by
  induction as generalizing bs with
  | nil =>
      cases bs with
      | nil => rfl
      | cons b bs => cases agree
  | cons a as ih =>
      cases bs with
      | nil => cases agree
      | cons b bs =>
          rw [List.map_cons, List.map_cons, List.cons.injEq] at agree
          have first := each a List.mem_cons_self b List.mem_cons_self agree.1
          have rest := ih agree.2 fun a memA b memB =>
            each a (List.mem_cons_of_mem _ memA) b (List.mem_cons_of_mem _ memB)
          rw [eqLst, first, ok_bind]
          by_cases same : Same a
          · simp only [same, decide_true, if_true, rest, List.forall_mem_cons, true_and]
          · simp only [same, decide_false, List.forall_mem_cons, false_and]
            rfl

@[simp] theorem eqRanFunctionName_self (m : RanFunctionName) :
    eqRanFunctionName m m = .ok true := by
  cases instanceId : m.instanceId <;> simp [eqRanFunctionName, instanceId, pure_eq_ok]

@[simp] theorem eqRicEventTriggerStyleList_self (m : EventTriggerStyleItem) :
    eqRicEventTriggerStyleList m m = true := by
  simp [eqRicEventTriggerStyleList]

/-- Two measurements that say the same, in two objects, are told apart where there is an id. -/
theorem eqMeasInfoForActionLst_eq {m0 m1 : MeasInfoForAction (Pointer UInt16)}
    (agree : m0.map Pointer.target = m1.map Pointer.target)
    (kept : MeasInfoForActionKept (m0.map Pointer.target))
    (apart : ∀ p ∈ m0.id, ∀ q ∈ m1.id, p.addr ≠ q.addr) :
    eqMeasInfoForActionLst m0 m1 = .ok (decide (m0.id = none)) := by
  obtain ⟨name, id, bins⟩ := m0
  obtain ⟨name', id', bins'⟩ := m1
  simp only [MeasInfoForAction.map, MeasInfoForAction.mk.injEq] at agree
  obtain ⟨rfl, sameId, rfl⟩ := agree
  have absent : bins = none := kept.binRangeDef
  subst absent
  cases id with
  | none =>
      cases id' with
      | none => simp [eqMeasInfoForActionLst, pure_eq_ok]
      | some q => cases sameId
  | some p =>
      cases id' with
      | none => cases sameId
      | some q =>
          have differ : p.addr ≠ q.addr := apart p rfl q rfl
          simp [eqMeasInfoForActionLst, differ, pure_eq_ok]

theorem eqRicReportStyleItem_eq {m0 m1 : ReportStyleItem (Pointer UInt16)}
    (agree : m0.map Pointer.target = m1.map Pointer.target)
    (kept : ReportStyleKept (m0.map Pointer.target))
    (apart : ∀ info ∈ m0.measInfoForActionLst, ∀ info' ∈ m1.measInfoForActionLst,
      ∀ p ∈ info.id, ∀ q ∈ info'.id, p.addr ≠ q.addr) :
    eqRicReportStyleItem m0 m1 =
      .ok (decide (∀ info ∈ m0.measInfoForActionLst, info.id = none)) := by
  obtain ⟨type, name, action, infos, hdr, msg⟩ := m0
  obtain ⟨type', name', action', infos', hdr', msg'⟩ := m1
  simp only [ReportStyleItem.map, ReportStyleItem.mk.injEq] at agree
  obtain ⟨rfl, rfl, rfl, sameInfos, -, rfl⟩ := agree
  cases hdr
  cases hdr'
  have lengths : infos.length = infos'.length := by
    simpa using congrArg List.length sameInfos
  have count : 1 ≤ infos.length ∧ infos.length ≤ maxnoofMeasurementInfo := by
    simpa [ReportStyleItem.map] using kept.count
  have within : 0 < infos'.length ∧ infos'.length < 65536 :=
    lengths ▸ ⟨count.1, Nat.lt_succ_of_le count.2⟩
  have compared := eqLst_eq (fun info => info.id = none) sameInfos
    fun info mem info' mem' same =>
      eqMeasInfoForActionLst_eq same
        (kept.measInfoForActionLst _ (List.mem_map_of_mem mem)) (apart info mem info' mem')
  simp [eqRicReportStyleItem, check_pass Fault.bound within, lengths, compared]

theorem ids_eq_nil {src : StoredFunctionDef} :
    src.ids = [] ↔ ∀ style ∈ items src.ricReportStyleList,
      ∀ info ∈ style.measInfoForActionLst, info.id = none := by
  simp [StoredFunctionDef.ids, List.flatMap_eq_nil_iff, List.filterMap_eq_nil_iff]

theorem items_map {α β : Type} (f : α → β) (lst : Option (List α)) :
    items (lst.map (·.map f)) = (items lst).map f := by
  cases lst <;> rfl

theorem triggers_self (lst : List EventTriggerStyleItem) :
    ((lst.zip lst).any fun styles => !eqRicEventTriggerStyleList styles.1 styles.2) = false := by
  induction lst with
  | nil => rfl
  | cons style lst ih => simp [ih]

/-- A definition is taken for the one it was decoded from just when nothing has an id. -/
theorem eqKpmRanFunctionDef_eq {m0 m1 : StoredFunctionDef} (stored : m1.values = m0.values)
    (kept : FuncDefKept m0.values) (apart : Apart m0 m1) :
    eqKpmRanFunctionDef m0 m1 = .ok (decide (m0.ids = [])) := by
  have parts := stored
  simp only [StoredFunctionDef.values, KpmRanFunctionDef.map, KpmRanFunctionDef.mk.injEq] at parts
  obtain ⟨sameName, sameTriggers, reports⟩ := parts
  have sameReports : (items m0.ricReportStyleList).map (·.map Pointer.target) =
      (items m1.ricReportStyleList).map (·.map Pointer.target) := by
    rw [← items_map, ← items_map, reports]
  have lengths : (items m0.ricReportStyleList).length = (items m1.ricReportStyleList).length := by
    simpa using congrArg List.length sameReports
  have styleKept : ∀ style ∈ items m0.ricReportStyleList,
      ReportStyleKept (style.map Pointer.target) := by
    intro style mem
    cases lst : m0.ricReportStyleList with
    | none => simp [lst, items] at mem
    | some styles =>
        have there := kept.ricReportStyleList (styles.map (·.map Pointer.target))
          (by simp [StoredFunctionDef.values, KpmRanFunctionDef.map, lst])
        rw [lst] at mem
        exact there.2 _ (List.mem_map_of_mem mem)
  have compared := eqLst_eq
    (fun style => ∀ info ∈ style.measInfoForActionLst, info.id = none) sameReports
    fun style mem style' mem' same => by
      apply eqRicReportStyleItem_eq same (styleKept style mem)
      intro info infoMem info' infoMem' p pMem q qMem
      apply apart p _ q
      · exact List.mem_flatMap.mpr ⟨style', mem', List.mem_filterMap.mpr ⟨info', infoMem', qMem⟩⟩
      · exact List.mem_flatMap.mpr ⟨style, mem, List.mem_filterMap.mpr ⟨info, infoMem, pMem⟩⟩
  simp only [ids_eq_nil]
  simpa [eqKpmRanFunctionDef, sameName, sameTriggers, lengths, triggers_self] using compared

/-- The same definition, `n` further in memory. -/
def StoredFunctionDef.moved (src : StoredFunctionDef) (n : Nat) : StoredFunctionDef :=
  src.map fun p => { p with addr := p.addr + n }

@[simp] theorem StoredFunctionDef.values_moved (src : StoredFunctionDef) (n : Nat) :
    (src.moved n).values = src.values := by
  simp [StoredFunctionDef.moved, StoredFunctionDef.values, KpmRanFunctionDef.map,
    ReportStyleItem.map, MeasInfoForAction.map, Option.map_map, Function.comp_def]

theorem StoredFunctionDef.ids_moved (src : StoredFunctionDef) (n : Nat) :
    (src.moved n).ids = src.ids.map fun p => { p with addr := p.addr + n } := by
  simp only [StoredFunctionDef.ids, StoredFunctionDef.moved, KpmRanFunctionDef.map, items_map,
    List.flatMap_map, List.map_flatMap, ReportStyleItem.map, MeasInfoForAction.map,
    List.filterMap_map, List.map_filterMap]
  rfl

theorem addr_bound (ids : List (Pointer UInt16)) : ∃ n, ∀ p ∈ ids, p.addr < n := by
  induction ids with
  | nil => exact ⟨0, nofun⟩
  | cons q ids ih =>
      obtain ⟨n, below⟩ := ih
      refine ⟨q.addr + 1 + n, List.forall_mem_cons.mpr ⟨by omega, ?_⟩⟩
      intro p mem
      have := below p mem
      omega

/-- There is always room for a second object. -/
theorem exists_apart (m0 : StoredFunctionDef) : ∃ m1 : StoredFunctionDef,
    m1.values = m0.values ∧ Apart m0 m1 := by
  obtain ⟨n, below⟩ := addr_bound m0.ids
  refine ⟨m0.moved n, m0.values_moved n, ?_⟩
  intro p mem q memMoved
  rw [StoredFunctionDef.ids_moved] at memMoved
  obtain ⟨r, -, rfl⟩ := List.mem_map.mp memMoved
  have := below p mem
  simp only
  omega

/-- The definition comes back, and wherever it is put it is taken for the one that was sent. -/
def Recognised (p : Packing RanFunctionDescription) (m0 : StoredFunctionDef) : Prop :=
  (kpmEncFuncDefAsn p m0.values >>= kpmDecFuncDefAsn p) = .ok m0.values ∧
    ∀ m1 : StoredFunctionDef, m1.values = m0.values → Apart m0 m1 →
      eqKpmRanFunctionDef m0 m1 = .ok true

theorem func_def_recognised_iff {p : Packing RanFunctionDescription} {m0 : StoredFunctionDef}
    (carries : p.Carries bufferLen funcDefUnit m0.values) :
    Recognised p m0 ↔ FuncDefKept m0.values ∧ m0.ids = [] := by
  rw [Recognised, kpmEncFuncDefAsn, kpmDecFuncDefAsn, packed_back carries, funcDef_back_iff]
  apply and_congr_right
  intro kept
  constructor
  · intro recognised
    obtain ⟨m1, stored, apart⟩ := exists_apart m0
    have equal := recognised m1 stored apart
    rw [eqKpmRanFunctionDef_eq stored kept apart] at equal
    exact of_decide_eq_true (Except.ok.inj equal)
  · intro absent m1 stored apart
    rw [eqKpmRanFunctionDef_eq stored kept apart, absent]
    rfl

/-- A node that reports one measurement, `A`, whose id, if it has one, lies at `addr`. -/
def oneMeasurement (addr : Nat) (id : Option UInt16) : StoredFunctionDef where
  name := { name := [75], oid := [49], description := [68], instanceId := none }
  ricEventTriggerStyleList := none
  ricReportStyleList := some [{
    reportStyleType := .style1
    reportStyleName := [83]
    actDefFormatType := .format1
    measInfoForActionLst := [{ name := [65], id := id.map (⟨addr, ·⟩), binRangeDef := none }]
    indHdrFormatType := .format1
    indMsgFormatType := .format1 }]

theorem oneMeasurement_kept (addr : Nat) (id : Option UInt16) :
    FuncDefKept (oneMeasurement addr id).values where
  name :=
    have fits : RanFunctionNameKept ⟨[75], [49], [68], none⟩ := ⟨by decide, by decide, by decide⟩
    fits
  ricEventTriggerStyleList := nofun
  ricReportStyleList := by
    intro lst mem
    cases mem
    have short : LengthFits [83] ∧ LengthFits [65] := by decide
    refine ⟨⟨Nat.le_refl 1, Nat.le_add_left 1 62⟩, List.forall_mem_singleton.mpr ?_⟩
    exact
      { reportStyleName := short.1
        formats := rfl
        count := ⟨Nat.le_refl 1, Nat.le_add_left 1 65534⟩
        measInfoForActionLst := List.forall_mem_singleton.mpr ⟨short.2, rfl⟩ }

/-- The definition without ids in aligned PER. -/
def oneMeasurementBytes : Bytes :=
  [0x20, 0x00, 0x4B, 0x00, 0x00, 0x00, 0x31, 0x00, 0x00, 0x44, 0x00, 0x01, 0x01, 0x00, 0x00, 0x53,
   0x01, 0x01, 0x00, 0x00, 0x00, 0x00, 0x41, 0x01, 0x01, 0x01, 0x01]

theorem func_def_recognised_one :
    ∃ p : Packing RanFunctionDescription, Recognised p (oneMeasurement 0 none) := by
  have carries : (Packing.only _ oneMeasurementBytes).Carries bufferLen funcDefUnit
      (oneMeasurement 0 none).values :=
    Packing.only_carries rfl (by decide) (by decide)
  exact ⟨_, (func_def_recognised_iff carries).mpr ⟨oneMeasurement_kept 0 none, rfl⟩⟩

/-- The definition with the id 7. -/
def withIdBytes : Bytes :=
  [0x20, 0x00, 0x4B, 0x00, 0x00, 0x00, 0x31, 0x00, 0x00, 0x44, 0x00, 0x01, 0x01, 0x00, 0x00, 0x53,
   0x01, 0x01, 0x00, 0x00, 0x40, 0x00, 0x41, 0x00, 0x00, 0x06, 0x01, 0x01, 0x01, 0x01]

/-- With an id, what comes back is equal and is not recognised. -/
theorem measurement_id_not_recognised :
    ∃ p : Packing RanFunctionDescription,
      p.Carries bufferLen funcDefUnit (oneMeasurement 0 (some 7)).values ∧
      FuncDefKept (oneMeasurement 0 (some 7)).values ∧
      (kpmEncFuncDefAsn p (oneMeasurement 0 (some 7)).values >>= kpmDecFuncDefAsn p) =
        .ok (oneMeasurement 0 (some 7)).values ∧
      (oneMeasurement 8 (some 7)).values = (oneMeasurement 0 (some 7)).values ∧
      eqKpmRanFunctionDef (oneMeasurement 0 (some 7)) (oneMeasurement 8 (some 7)) =
        .ok false := by
  have carries : (Packing.only _ withIdBytes).Carries bufferLen funcDefUnit
      (oneMeasurement 0 (some 7)).values :=
    Packing.only_carries rfl (by decide) (by decide)
  have kept := oneMeasurement_kept 0 (some 7)
  refine ⟨_, carries, kept, ?_, rfl, rfl⟩
  rw [kpmEncFuncDefAsn, kpmDecFuncDefAsn, packed_back carries]
  exact (funcDef_back_iff _).mpr kept

end FlexRic.Kpm
