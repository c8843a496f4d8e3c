import RecordQuery.Proofs.Outcome
import RecordQuery.Proofs.Text.Trimming
import RecordQuery.Settings

/-!
# Lists of nodes

A list of nodes has an entry between each two commas. Blank entries are skipped, and every other one
stands for a node: a name alone, or a name, a colon and a port, with blanks around either of them.

* `SpellsPort`: the texts of a port. `Number.readUInt16?_eq_some_iff`: they are what is read as one.
* `Host.IsReadFrom`: the node of an entry. `parseHosts_eq_ok_iff`: a list is read entry by entry.
* `Host.IsPlain`: the nodes with a name that stands in a list as it is. `parseHosts_display`: these are
  read back from their text.
* `parseHosts_normalises`: which lists are read, and what the nodes of a list are like.
-/

namespace RecordQuery

/-! ## Ports -/

/-- Whether a text spells a port: digits, with or without a plus sign, of a number below `2 ^ 16`. -/
def SpellsPort (text : List Char) (port : UInt16) : Prop :=
  ∃ digits, (text = digits ∨ text = '+' :: digits) ∧ digits ≠ [] ∧
    (∀ c ∈ digits, c.isDigit = true) ∧ Number.ofDigits digits = port.toNat

namespace Number

theorem readNat?_eq_some_iff {text : List Char} {n : Nat} :
    readNat? text = some n ↔
      text ≠ [] ∧ (∀ c ∈ text, c.isDigit = true) ∧ ofDigits text = n := by
  unfold readNat?
  by_cases hnil : text = []
  · simp [hnil]
  · simp [hnil]

theorem readUInt16?_eq_some_iff {text : List Char} {port : UInt16} :
    readUInt16? text = some port ↔ SpellsPort text port := by
  have hread : ∀ digits : List Char,
      ((readNat? digits).bind fun n => if n < UInt16.size then some (UInt16.ofNat n) else none) =
          some port ↔
        digits ≠ [] ∧ (∀ c ∈ digits, c.isDigit = true) ∧ ofDigits digits = port.toNat := by
    intro digits
    rw [← readNat?_eq_some_iff, Option.bind_eq_some_iff]
    constructor
    · rintro ⟨n, hn, hword⟩
      split at hword
      next hlt =>
        obtain rfl := Option.some.inj hword
        rw [hn, UInt16.toNat_ofNat_of_lt' hlt]
      next => cases hword
    · intro hn
      refine ⟨_, hn, ?_⟩
      rw [if_pos port.toNat_lt, UInt16.ofNat_toNat]
  unfold readUInt16?
  split
  next digits =>
    rw [hread]
    constructor
    · intro h
      exact ⟨digits, .inr rfl, h⟩
    · rintro ⟨digits', hsign | hsign, h⟩
      · -- a sign is no digit
        have hplus := h.2.1 '+' (hsign ▸ List.mem_cons_self)
        cases hplus
      · obtain rfl := (List.cons.inj hsign).2
        exact h
  next hunsigned =>
    rw [hread]
    constructor
    · intro h
      exact ⟨text, .inl rfl, h⟩
    · rintro ⟨digits, rfl | rfl, h⟩
      · exact h
      · exact absurd rfl (hunsigned digits)

theorem spellsPort_toDigits (port : UInt16) : SpellsPort (Nat.toDigits 10 port.toNat) port :=
  ⟨_, .inl rfl, readNat?_eq_some_iff.1 (readNat?_toDigits port.toNat)⟩

end Number

theorem Text.isBlank_of_isDigit {c : Char} (h : c.isDigit = true) : isBlank c = false := by
  have hc : c.val < 0x80 := by
    have hle := (Bool.and_eq_true_iff.1 h).2
    exact Nat.lt_of_le_of_lt (of_decide_eq_true hle) (by decide)
  exact forall_ascii (p := fun c => c.isDigit = true → isBlank c = false) (by decide +kernel) hc h

/-! ## Entries -/

namespace Host

/-- The node that an entry of a list stands for. -/
inductive IsReadFrom : List Char → Host → Prop
  /-- A name without a colon has the default port. -/
  | bare {entry : List Char} (unmarked : ':' ∉ entry) :
    IsReadFrom entry ⟨String.ofList (Text.trim entry), 3000⟩
  /-- The first colon ends the name, which is not blank. -/
  | withPort {name text : List Char} {port : UInt16} (unmarked : ':' ∉ name)
    (named : Text.allBlank name = false) (spells : SpellsPort (Text.trim text) port) :
    IsReadFrom (name ++ ':' :: text) ⟨String.ofList (Text.trim name), port⟩

theorem isReadFrom_iff_of_not_mem {entry : List Char} {host : Host} (h : ':' ∉ entry) :
    IsReadFrom entry host ↔ host = ⟨String.ofList (Text.trim entry), 3000⟩ := by
  constructor
  · intro hread
    cases hread with
    | bare => rfl
    | withPort => exact absurd (List.mem_append_right _ List.mem_cons_self) h
  · rintro rfl
    exact .bare h

theorem isReadFrom_append_cons_iff {name text : List Char} {host : Host} (h : ':' ∉ name) :
    IsReadFrom (name ++ ':' :: text) host ↔
      Text.allBlank name = false ∧
        ∃ port, SpellsPort (Text.trim text) port ∧ host = ⟨String.ofList (Text.trim name), port⟩ := by
  constructor
  · intro hread
    have hcut : Text.cutAt ':' (name ++ ':' :: text) = some (name, text) :=
      Text.cutAt_eq_some_iff.2 ⟨rfl, h⟩
    generalize hentry : name ++ ':' :: text = entry at hread hcut
    cases hread with
    | bare unmarked => exact absurd (hentry ▸ List.mem_append_right _ List.mem_cons_self) unmarked
    | withPort unmarked named spells =>
      -- both names end at the first colon
      rw [Text.cutAt_eq_some_iff.2 ⟨rfl, unmarked⟩] at hcut
      obtain ⟨rfl, rfl⟩ := Prod.mk.inj (Option.some.inj hcut)
      exact ⟨named, _, spells, rfl⟩
  · rintro ⟨named, port, spells, rfl⟩
    exact .withPort h named spells

theorem parse_trim_eq_ok_iff {entry : List Char} {host : Host} :
    parse (Text.trim entry) = .ok host ↔ IsReadFrom entry host := by
  by_cases hcolon : ':' ∈ entry
  · obtain ⟨name, text, rfl, hname⟩ := List.eq_append_cons_of_mem hcolon
    have hcut : Text.cutAt ':' (Text.trim (name ++ ':' :: text)) =
        some (Text.trimStart name, Text.trimEnd text) := by
      rw [Text.trim_append_cons (by decide), Text.cutAt_eq_some_iff]
      obtain ⟨gap, hgap, -⟩ := Text.exists_append_trimStart name
      refine ⟨rfl, fun hmem => hname ?_⟩
      rw [hgap]
      exact List.mem_append_right _ hmem
    rw [isReadFrom_append_cons_iff hname, parse, hcut]
    dsimp only
    rw [Text.trim_trimStart, Text.trim_trimEnd, Text.isEmpty_trim]
    cases Text.allBlank name with
    | true => simp
    | false =>
      simp only [← Number.readUInt16?_eq_some_iff]
      cases Number.readUInt16? (Text.trim text) with
      | none => simp
      | some port => simp [eq_comm]
  · have hcut : Text.cutAt ':' (Text.trim entry) = none :=
      Text.cutAt_eq_none_iff.2 fun hmem => hcolon (Text.mem_of_mem_trim hmem)
    rw [isReadFrom_iff_of_not_mem hcolon, parse, hcut]
    exact ⟨fun h => (Except.ok.inj h).symm, fun h => congrArg Except.ok h.symm⟩

/-! ## Plain names -/

/-- Whether a node has a name that stands in a list as it is. -/
structure IsPlain (host : Host) : Prop where
  named : host.name.toList ≠ []
  trimmed : Text.trim host.name.toList = host.name.toList
  no_comma : ',' ∉ host.name.toList
  no_colon : ':' ∉ host.name.toList

theorem isPlain_ofList_trim {name : List Char} {port : UInt16} (hname : Text.allBlank name = false)
    (hcomma : ',' ∉ name) (hcolon : ':' ∉ name) :
    IsPlain ⟨String.ofList (Text.trim name), port⟩ := by
  have hnil : (Text.trim name).isEmpty = false := by rw [Text.isEmpty_trim, hname]
  constructor
  · simpa using hnil
  · simp [Text.trim_trim]
  · simpa using fun h => hcomma (Text.mem_of_mem_trim h)
  · simpa using fun h => hcolon (Text.mem_of_mem_trim h)

theorem IsReadFrom.isPlain {entry : List Char} {host : Host} (h : IsReadFrom entry host)
    (hentry : Text.allBlank entry = false) (hcomma : ',' ∉ entry) : host.IsPlain := by
  cases h with
  | bare unmarked => exact isPlain_ofList_trim hentry hcomma unmarked
  | withPort unmarked named =>
    exact isPlain_ofList_trim named (fun h => hcomma (List.mem_append_left _ h)) unmarked

theorem toList_display (host : Host) :
    host.display.toList = host.name.toList ++ ':' :: Nat.toDigits 10 host.port.toNat := by
  rw [display, Nat.repr]
  simp

theorem IsPlain.allBlank_name {host : Host} (h : host.IsPlain) :
    Text.allBlank host.name.toList = false := by
  rw [← Text.isEmpty_trim, h.trimmed]
  simpa using h.named

theorem IsPlain.isReadFrom_display {host : Host} (h : host.IsPlain) :
    IsReadFrom host.display.toList host := by
  have hdigits : Text.trim (Nat.toDigits 10 host.port.toNat) = Nat.toDigits 10 host.port.toNat :=
    Text.trim_eq_self fun c hc =>
      Text.isBlank_of_isDigit (List.all_eq_true.1 (Number.all_isDigit_toDigits _) c hc)
  rw [toList_display, isReadFrom_append_cons_iff h.no_colon, hdigits, h.trimmed, String.ofList_toList]
  exact ⟨h.allBlank_name, host.port, Number.spellsPort_toDigits host.port, rfl⟩

theorem allBlank_display (host : Host) : Text.allBlank host.display.toList = false := by
  rw [toList_display, Text.allBlank, List.all_append, List.all_cons]
  simp [show Text.isBlank ':' = false by decide]

theorem IsPlain.comma_not_mem_display {host : Host} (h : host.IsPlain) :
    ',' ∉ host.display.toList := by
  rw [toList_display, List.mem_append, List.mem_cons]
  rintro (hname | hcolon | hdigit)
  · exact h.no_comma hname
  · cases hcolon
  · have hdigits := List.all_eq_true.1 (Number.all_isDigit_toDigits _) _ hdigit
    cases hdigits

end Host

/-! ## Lists -/

/-- The entries of a list that are not blank, as they stand in it. -/
def filledEntries (seeds : List Char) : List (List Char) :=
  (seeds.splitOn ',').filter fun entry => !Text.allBlank entry

theorem hostEntries_eq (seeds : List Char) :
    hostEntries seeds = (filledEntries seeds).map Text.trim := by
  rw [hostEntries, filledEntries, List.filter_map]
  refine congrArg _ (List.filter_congr fun entry _ => ?_)
  rw [Function.comp_apply, Text.isEmpty_trim]

theorem parseHosts_eq_ok_iff {seeds : List Char} {hosts : List Host} :
    parseHosts seeds = .ok hosts ↔
      List.Forall₂ Host.IsReadFrom (filledEntries seeds) hosts ∧ hosts ≠ [] := by
  have hentries : (hostEntries seeds).mapM Host.parse = .ok hosts ↔
      List.Forall₂ Host.IsReadFrom (filledEntries seeds) hosts := by
    rw [mapM_eq_ok_iff, hostEntries_eq, List.forall₂_map_left_iff]
    simp only [Host.parse_trim_eq_ok_iff]
  rw [← hentries, parseHosts, bind_eq_ok_iff]
  constructor
  · rintro ⟨found, hfound, hread⟩
    split at hread
    next => cases hread
    next hfilled =>
      obtain rfl := Except.ok.inj hread
      exact ⟨hfound, fun hnil => hfilled (List.isEmpty_iff.2 hnil)⟩
  · rintro ⟨hfound, hne⟩
    refine ⟨hosts, hfound, ?_⟩
    rw [if_neg (by simpa using hne)]
    rfl

theorem exists_parseHosts_iff {seeds : List Char} :
    (∃ hosts, parseHosts seeds = .ok hosts) ↔
      filledEntries seeds ≠ [] ∧ ∀ entry ∈ filledEntries seeds, ∃ host, Host.IsReadFrom entry host := by
  have hlist : ∀ {entries : List (List Char)}, (∃ hosts, List.Forall₂ Host.IsReadFrom entries hosts) ↔
      ∀ entry ∈ entries, ∃ host, Host.IsReadFrom entry host := by
    intro entries
    induction entries with
    | nil => exact iff_of_true ⟨[], .nil⟩ nofun
    | cons entry entries ih =>
      rw [List.forall_mem_cons, ← ih]
      constructor
      · rintro ⟨_, _ | ⟨hentry, hentries⟩⟩
        exact ⟨⟨_, hentry⟩, ⟨_, hentries⟩⟩
      · rintro ⟨⟨host, hentry⟩, ⟨hosts, hentries⟩⟩
        exact ⟨host :: hosts, .cons hentry hentries⟩
  simp only [parseHosts_eq_ok_iff, ← hlist]
  constructor
  · rintro ⟨hosts, hread, hne⟩
    refine ⟨?_, hosts, hread⟩
    rintro hnil
    rw [hnil, List.forall₂_nil_left_iff] at hread
    exact hne hread
  · rintro ⟨hne, hosts, hread⟩
    refine ⟨hosts, hread, ?_⟩
    rintro rfl
    exact hne (List.forall₂_nil_right_iff.1 hread)

theorem isPlain_of_parseHosts {seeds : List Char} {hosts : List Host}
    (h : parseHosts seeds = .ok hosts) : ∀ host ∈ hosts, host.IsPlain := by
  have hentries : ∀ entry ∈ filledEntries seeds, Text.allBlank entry = false ∧ ',' ∉ entry := by
    intro entry hentry
    obtain ⟨hmem, hfilled⟩ := List.mem_filter.1 hentry
    refine ⟨by simpa using hfilled, fun hcomma => ?_⟩
    have hcut := Text.eq_false_of_mem_splitOnP hmem ',' hcomma
    cases hcut
  have hread := (parseHosts_eq_ok_iff.1 h).1
  generalize filledEntries seeds = entries at hentries hread
  clear h
  induction hread with
  | nil => exact nofun
  | cons hentry _ ih =>
    obtain ⟨⟨hfilled, hcomma⟩, hrest⟩ := List.forall_mem_cons.1 hentries
    exact List.forall_mem_cons.2 ⟨hentry.isPlain hfilled hcomma, ih hrest⟩

theorem parseHosts_display {hosts : List Host} (hne : hosts ≠ [])
    (hplain : ∀ host ∈ hosts, host.IsPlain) :
    parseHosts (",".intercalate (hosts.map Host.display)).toList = .ok hosts := by
  have hsplit : (",".intercalate (hosts.map Host.display)).toList.splitOn ',' =
      hosts.map (String.toList ∘ Host.display) := by
    rw [String.toList_intercalate, List.map_map]
    refine List.splitOn_intercalate ',' (List.forall_mem_map.2 fun host hmem => ?_) (by simpa using hne)
    exact (hplain host hmem).comma_not_mem_display
  have hfilled : ∀ entry ∈ hosts.map (String.toList ∘ Host.display),
      (!Text.allBlank entry) = true := by
    rw [List.forall_mem_map]
    intro host _
    rw [Function.comp_apply, Host.allBlank_display]
    rfl
  rw [parseHosts_eq_ok_iff, filledEntries, hsplit, List.filter_eq_self.2 hfilled,
    List.forall₂_map_left_iff, List.forall₂_same]
  exact ⟨fun host hmem => (hplain host hmem).isReadFrom_display, hne⟩

theorem fault?_of_isPlain {hosts : List Host} (hne : hosts ≠ [])
    (hplain : ∀ host ∈ hosts, host.IsPlain) (settings : ClientSettings) :
    { settings with hosts }.fault? =
      if settings.defaultTtl = some 0 then some "default_ttl must be greater than 0 when set"
      else none := by
  have hblank : (hosts.any fun host => Text.allBlank host.name.toList) = false := by
    rw [List.any_eq_false]
    intro host hmem
    rw [(hplain host hmem).allBlank_name]
    exact Bool.false_ne_true
  rw [ClientSettings.fault?, if_neg (by simpa using hne), if_neg (by simp [hblank])]

/-- **What lists of nodes are read as.** A list is read exactly if one of its entries is not blank, and
each one that is not blank stands for a node: a name without a colon, or a name that is not blank,
before the first colon, and the text of a port. Then there is one node for each such entry, in order.
Its name is not empty, has no blanks around it and has neither a comma nor a colon in it. The nodes
are usable, and their texts with commas between them are read as the same nodes. -/
theorem parseHosts_normalises (seeds : List Char) :
    ((∃ hosts, parseHosts seeds = .ok hosts) ↔
      (∃ entry ∈ seeds.splitOn ',', Text.allBlank entry = false) ∧
        ∀ entry ∈ seeds.splitOn ',', Text.allBlank entry = false →
          ∃ host, Host.IsReadFrom entry host) ∧
    ∀ hosts, parseHosts seeds = .ok hosts →
      List.Forall₂ Host.IsReadFrom
        ((seeds.splitOn ',').filter fun entry => !Text.allBlank entry) hosts ∧
      (∀ host ∈ hosts, host.name.toList ≠ [] ∧ Text.trim host.name.toList = host.name.toList ∧
        ',' ∉ host.name.toList ∧ ':' ∉ host.name.toList) ∧
      (∀ settings : ClientSettings, { settings with hosts }.fault? =
        if settings.defaultTtl = some 0 then some "default_ttl must be greater than 0 when set"
        else none) ∧
      parseHosts (",".intercalate (hosts.map Host.display)).toList = .ok hosts := by
  refine ⟨?_, fun hosts h => ?_⟩
  · rw [exists_parseHosts_iff, filledEntries, ne_eq, List.filter_eq_nil_iff]
    simp only [List.mem_filter, Bool.not_eq_true', and_imp]
    simp
  · obtain ⟨hread, hne⟩ := parseHosts_eq_ok_iff.1 h
    have hplain := isPlain_of_parseHosts h
    refine ⟨hread, fun host hmem => ?_, fault?_of_isPlain hne hplain, parseHosts_display hne hplain⟩
    obtain ⟨named, trimmed, no_comma, no_colon⟩ := hplain host hmem
    exact ⟨named, trimmed, no_comma, no_colon⟩

/-- Blanks, blank entries and signs are gone from the text of the nodes. -/
theorem parseHosts_normalises_two :
    let seeds := " a : +80 ,, b".toList
    parseHosts seeds = .ok [⟨"a", 80⟩, ⟨"b", 3000⟩] ∧
      parseHosts "a:80,b:3000".toList = parseHosts seeds := by
  intro seeds
  have hread : parseHosts seeds = .ok [⟨"a", 80⟩, ⟨"b", 3000⟩] := by decide +kernel
  have hprinted : ",".intercalate ([⟨"a", 80⟩, ⟨"b", 3000⟩].map Host.display) = "a:80,b:3000" := by
    decide +kernel
  have hback := ((parseHosts_normalises seeds).2 _ hread).2.2.2
  rw [hprinted] at hback
  exact ⟨hread, hback.trans hread.symm⟩

end RecordQuery
