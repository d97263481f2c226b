import ProfilePlatform.Imap.Query
import Mathlib.Data.Finset.Basic

/-! The pages of a search taken together, against a mailbox that stays as it is.

A scan lists the matching UIDs from where it stands up to where the call began, or as far
down as the page is full. The cursor names that place, so that the next call goes on with
the interval below it.
-/

set_option autoImplicit false

namespace ProfilePlatform.Imap

open Foundation

/-- A mailbox with its messages. -/
structure Mailbox where
  uidValidity : Nat
  uidNext : Nat
  uids : Finset Nat
  validity : 0 < uidValidity ∧ uidValidity < u64Limit
  next : 0 < uidNext ∧ uidNext < u64Limit
  within : ∀ uid ∈ uids, 0 < uid ∧ uid < uidNext

section Servers

variable {Session : Type}

/-- In a session the server takes part in, the exchange ends with OK and such an answer. -/
def Answers (live : Session → Prop)
    (exchange : Session → Except ImapTransportError ImapCommandResponse × Session)
    (answer : ImapCommandResponse → Prop) : Prop :=
  ∀ session, live session → ∃ response after, exchange session = (.ok response, after) ∧
    live after ∧ response.status = .ok ∧ answer response

/-- The first code of the name holds the number. -/
def StatesCode (name : Bytes) (number : Nat) (text : Bytes) : Prop :=
  ∃ rest, behind ([91] ++ name ++ [32]) text = some (Decimal.digits number ++ [93] ++ rest)

/-- The first SEARCH line lists the UIDs, in any order. Where nothing is found there may be none. -/
inductive ListsFound (found : Nat → Prop) (text : Bytes) : Prop where
  | listed (before words after : Bytes) (uids : List Nat)
      (same : text = before ++ (searchMark ++ words ++ crlf ++ after))
      (start : Lines.AtLineStart 10 before)
      (others : ∀ line ∈ lines before, searchMark.isPrefixOf line = false)
      (line : 10 ∉ words)
      (spelled : splitAsciiWhitespace words = uids.map Decimal.digits)
      (exact : ∀ uid, uid ∈ uids ↔ found uid)
  | nothing (others : ∀ line ∈ lines text, searchMark.isPrefixOf line = false)
      (unfound : ∀ uid, ¬found uid)

/-- A server with this mailbox, where the messages that match the term are these. -/
structure Serves (transport : ImapTransport Session) (live : Session → Prop) (mailbox : Mailbox)
    (term : Option MailSearchTerm) (matching : Finset Nat) : Prop where
  examines : Answers live
    (fun session => transport.execute session examineCommand maxImapControlResponseBytes)
    fun response => StatesCode (ascii "UIDVALIDITY") mailbox.uidValidity response.textLossy ∧
      StatesCode (ascii "UIDNEXT") mailbox.uidNext response.textLossy
  searches : ∀ start last, 0 < start → start ≤ last → last < mailbox.uidNext →
    Answers live (sendSearch transport start last term) fun response =>
      ListsFound (fun uid => uid ∈ matching ∧ start ≤ uid ∧ uid ≤ last) response.textLossy
  fetches : ∀ uid ∈ mailbox.uids, Answers live
    (fun session => transport.execute session (fetchCommand uid) maxImapMetadataResponseBytes)
    fun response => ∃ metadata, readMetadata uid response = .ok (some metadata)

end Servers

section Reading

theorem parseBracketU64_eq {name text : Bytes} {number : Nat} (small : number < u64Limit)
    (states : StatesCode name number text) : parseBracketU64 text name = some number := by
  obtain ⟨rest, found⟩ := states
  have cut : upTo 93 (Decimal.digits number ++ [93] ++ rest) = some (Decimal.digits number) := by
    rw [List.append_assoc]
    exact upTo_eq (not_mem_digits (by decide)) rest
  simp only [parseBracketU64, found, Option.bind_eq_bind, Option.bind_some, cut, trim_digits,
    parseU64_digits small]

theorem mapM_parsed {uids : List Nat} (positive : ∀ uid ∈ uids, 0 < uid ∧ uid < u64Limit) :
    (uids.map Decimal.digits).mapM
      (fun value => orIntegrityFailure ((parseU64 value).filter (0 < ·))) = .ok uids := by
  induction uids with
  | nil => rfl
  | cons uid rest ih =>
    obtain ⟨first, others⟩ := List.forall_mem_cons.mp positive
    have parsed : orIntegrityFailure ((parseU64 (Decimal.digits uid)).filter (0 < ·)) = .ok uid := by
      rw [parseU64_digits first.2, Option.filter, if_pos (decide_eq_true first.1)]
      rfl
    rw [List.map_cons, List.mapM_cons]
    exact bind_eq_ok.mpr ⟨uid, parsed, bind_eq_ok.mpr ⟨rest, ih others, rfl⟩⟩

theorem parseSearchUids_eq {found : Nat → Prop} {text : Bytes} (lists : ListsFound found text)
    (positive : ∀ uid, found uid → 0 < uid ∧ uid < u64Limit) :
    ∃ uids, parseSearchUids text = .ok uids ∧ ∀ uid, uid ∈ uids ↔ found uid := by
  cases lists with
  | listed before words after uids same start others line spelled exact =>
    have absent : 10 ∉ searchMark ++ words := by
      simpa [line] using (by decide : (10 : UInt8) ∉ searchMark)
    have selected : (lines text).find? (fun line => searchMark.isPrefixOf line) =
        some (searchMark ++ words) := by
      rw [same, lines_append start, lines_next absent, List.find?_append,
        List.find?_eq_none.mpr fun line member => by simp [others line member],
        List.find?_cons_of_pos (by simp)]
      rfl
    refine ⟨uids, ?_, exact⟩
    unfold parseSearchUids
    rw [selected]
    simp only [List.drop_left, spelled]
    exact mapM_parsed fun uid member => positive uid ((exact uid).mp member)
  | nothing others unfound =>
    have missing : (lines text).find? (fun line => searchMark.isPrefixOf line) = none :=
      List.find?_eq_none.mpr fun line member => by simp [others line member]
    refine ⟨[], ?_, fun uid => iff_of_false List.not_mem_nil (unfound uid)⟩
    unfold parseSearchUids
    rw [missing]

end Reading

section Cursors

theorem numberPair_printable (left right : Nat) :
    ∀ byte ∈ numberPair imapCursorPrefix left right, 32 ≤ byte ∧ byte < 127 := by
  have digit : ∀ byte : UInt8, Decimal.isDigit byte = true → 32 ≤ byte ∧ byte < 127 := by
    intro byte numeral
    simp only [Decimal.isDigit, Bool.and_eq_true, decide_eq_true_eq, UInt8.le_iff_toNat_le,
      UInt8.lt_iff_toNat_lt, UInt8.reduceToNat] at numeral ⊢
    omega
  have all : ((imapCursorPrefix ++ [58]).all fun byte => 32 ≤ byte && byte < 127) = true := rfl
  have fixed : ∀ byte, byte ∈ imapCursorPrefix ∨ byte ∈ [58] → 32 ≤ byte ∧ byte < 127 := by
    intro byte member
    simpa using List.all_eq_true.mp all byte (List.mem_append.mpr member)
  intro byte member
  simp only [numberPair, List.mem_append] at member
  rcases member with ((front | number) | colon) | number
  · exact fixed byte (.inl front)
  · exact digit byte (Decimal.isDigit_of_mem_digits number)
  · exact fixed byte (.inr colon)
  · exact digit byte (Decimal.isDigit_of_mem_digits number)

theorem numberPair_accepted {left right : Nat} (leftSmall : left < u64Limit)
    (rightSmall : right < u64Limit) :
    QueryCursor.accepts (numberPair imapCursorPrefix left right) = true := by
  have places {number : Nat} (small : number < u64Limit) : (Decimal.digits number).length ≤ 20 :=
    Decimal.length_digits_le (by decide) (Nat.lt_trans small (by decide))
  have front : imapCursorPrefix.length = 5 := by decide
  have short : (numberPair imapCursorPrefix left right).length ≤ 512 := by
    have first := places leftSmall
    have second := places rightSmall
    simp only [numberPair, List.length_append, List.length_singleton, front]
    omega
  have nonempty : (numberPair imapCursorPrefix left right).isEmpty = false := by
    simp [numberPair]
  simp [QueryCursor.accepts, maxQueryCursorLength, nonempty, short,
    hasControl_printable (numberPair_printable left right)]

theorem imapQueryCursor_eq {uidValidity beforeUid : Nat} (validity : uidValidity < u64Limit)
    (small : beforeUid < u64Limit) : ∃ cursor, imapQueryCursor uidValidity beforeUid = .ok cursor ∧
      cursor.asStr = numberPair imapCursorPrefix uidValidity beforeUid := by
  refine ⟨⟨_, numberPair_accepted validity small⟩, ?_, rfl⟩
  unfold imapQueryCursor QueryCursor.parse
  rw [dif_pos (numberPair_accepted validity small)]
  rfl

theorem parseNumberPair_eq {front : Bytes} {left right : Nat}
    (leftSmall : 0 < left ∧ left < u64Limit) (rightSmall : 0 < right ∧ right < u64Limit) :
    parseNumberPair front (numberPair front left right) = some (left, right) := by
  have split : splitOnce 58 (Decimal.digits left ++ 58 :: Decimal.digits right) =
      some (Decimal.digits left, Decimal.digits right) :=
    splitOnce_eq (not_mem_digits (by decide)) _
  have read {number : Nat} (small : 0 < number ∧ number < u64Limit) :
      (parseU64 (Decimal.digits number)).filter (0 < ·) = some number := by
    rw [parseU64_digits small.2, Option.filter, if_pos (decide_eq_true small.1)]
  have strip : stripPrefix front (numberPair front left right) =
      some (Decimal.digits left ++ 58 :: Decimal.digits right) := by
    rw [numberPair, List.append_assoc, List.append_assoc]
    exact stripPrefix_eq _ _
  simp only [parseNumberPair, strip, Option.bind_eq_bind, Option.bind_some, split, read leftSmall,
    read rightSmall]
  rfl

theorem parseImapCursor_eq {cursor : QueryCursor} {uidValidity beforeUid : Nat}
    (validity : 0 < uidValidity ∧ uidValidity < u64Limit)
    (small : 0 < beforeUid ∧ beforeUid < u64Limit)
    (spelled : cursor.asStr = numberPair imapCursorPrefix uidValidity beforeUid) :
    parseImapCursor cursor uidValidity = .ok beforeUid := by
  unfold parseImapCursor
  rw [spelled, parseNumberPair_eq validity small]
  simp

theorem summaryFromImap_eq (bindingId : MailboxBindingId) {uidValidity : Nat}
    (metadata : ImapMessageMetadata) (validity : uidValidity < u64Limit)
    (small : metadata.uid < u64Limit) :
    ∃ item, summaryFromImap bindingId uidValidity metadata = .ok item ∧
      item.reference.bindingId = bindingId ∧
      item.reference.providerReference = numberPair imapReferencePrefix uidValidity metadata.uid := by
  have accepted : MailboxMessageReference.accepts
      (numberPair imapReferencePrefix uidValidity metadata.uid) = true :=
    numberPair_accepted validity small
  refine ⟨⟨⟨bindingId, _, accepted⟩, metadata.subject, metadata.sender, metadata.internalDate⟩, ?_,
    rfl, rfl⟩
  unfold summaryFromImap MailboxMessageReference.new
  rw [dif_pos accepted]
  rfl

end Cursors

section Session

variable {Session : Type} {transport : ImapTransport Session} {live : Session → Prop}
  {mailbox : Mailbox} {term : Option MailSearchTerm} {matching : Finset Nat}

theorem Answers.gives {exchange : Session → Except ImapTransportError ImapCommandResponse × Session}
    {answer : ImapCommandResponse → Prop} (answers : Answers live exchange answer) :
    Gives live (answered exchange) answer := by
  intro session joined
  obtain ⟨response, after, exchanged, still, status, holds⟩ := answers session joined
  refine ⟨response, after, ?_, still, holds⟩
  simp only [answered, exchanged, requireOk, status]
  rfl

theorem examineInbox_gives (serves : Serves transport live mailbox term matching) :
    Gives live (examineInbox transport)
      fun snapshot => snapshot = ⟨mailbox.uidValidity, mailbox.uidNext⟩ := by
  refine serves.examines.gives.bind fun response ⟨validity, next⟩ => Gives.lift ?_ rfl
  have positive : ¬(mailbox.uidValidity = 0 ∨ mailbox.uidNext = 0) := by
    have := mailbox.validity
    have := mailbox.next
    omega
  unfold readSnapshot
  rw [parseBracketU64_eq mailbox.validity.2 validity, parseBracketU64_eq mailbox.next.2 next]
  refine bind_eq_ok.mpr ⟨mailbox.uidValidity, rfl, bind_eq_ok.mpr ⟨mailbox.uidNext, rfl, ?_⟩⟩
  exact bind_eq_ok.mpr ⟨(), refuseIf_passes positive, rfl⟩

theorem searchUidWindow_gives (serves : Serves transport live mailbox term matching)
    {start last : Nat} (positive : 0 < start) (ordered : start ≤ last)
    (below : last < mailbox.uidNext) :
    Gives live (searchUidWindow transport start last term)
      fun uids => ∀ uid, uid ∈ uids ↔ uid ∈ matching ∧ start ≤ uid ∧ uid ≤ last := by
  unfold searchUidWindow
  rw [if_neg (by omega)]
  refine (serves.searches start last positive ordered below).gives.bind fun response lists => ?_
  obtain ⟨uids, parsed, exact⟩ := parseSearchUids_eq lists fun uid found =>
    ⟨Nat.lt_of_lt_of_le positive found.2.1,
      Nat.lt_trans (Nat.lt_of_le_of_lt found.2.2 below) mailbox.next.2⟩
  exact Gives.lift parsed exact

theorem fetchMetadata_gives (serves : Serves transport live mailbox term matching) {uid : Nat}
    (member : uid ∈ mailbox.uids) : Gives live (fetchMetadata transport uid)
      fun found => ∃ metadata, found = some metadata ∧ metadata.uid = uid := by
  refine (serves.fetches uid member).gives.bind fun response ⟨metadata, read⟩ => ?_
  exact Gives.lift read ⟨metadata, rfl, readMetadata_uid read⟩

/-- The item is the summary of the message. -/
def Summarises (bindingId : MailboxBindingId) (uidValidity uid : Nat) (item : MailMessageSummary) :
    Prop :=
  item.reference.bindingId = bindingId ∧
    item.reference.providerReference = numberPair imapReferencePrefix uidValidity uid

theorem summaries_gives (serves : Serves transport live mailbox term matching)
    (bindingId : MailboxBindingId) {uids : List Nat} (known : ∀ uid ∈ uids, uid ∈ mailbox.uids) :
    Gives live (summaries transport bindingId mailbox.uidValidity uids)
      fun items => List.Forall₂ (Summarises bindingId mailbox.uidValidity) uids items := by
  induction uids with
  | nil => exact Gives.pure List.Forall₂.nil
  | cons uid rest ih =>
    obtain ⟨present, others⟩ := List.forall_mem_cons.mp known
    refine (fetchMetadata_gives serves present).bind ?_
    rintro _ ⟨metadata, rfl, names⟩
    obtain ⟨item, summarised, bound, refers⟩ := summaryFromImap_eq bindingId metadata
      mailbox.validity.2 (names ▸ Nat.lt_trans (mailbox.within uid present).2 mailbox.next.2)
    refine Gives.bind (Gives.lift summarised rfl) ?_
    rintro _ rfl
    refine (ih others).bind fun items all => Gives.pure ?_
    exact List.Forall₂.cons ⟨bound, names ▸ refers⟩ all

end Session

section Scans

variable {matching : Finset Nat} {pageSize before : Nat} {scan : Scan}

/-- Where a scan of the interval below `before` stands, and what it has selected of it. -/
structure Scan.Sound (matching : Finset Nat) (pageSize before : Nat) (scan : Scan) : Prop where
  positive : 0 < scan.beforeUid
  descends : scan.beforeUid ≤ before
  resumes : scan.continuationBeforeUid = scan.beforeUid
  exhausts : scan.exhausted = true ↔ scan.beforeUid ≤ 1
  room : scan.selected.length ≤ pageSize
  complete : scan.selected.length < pageSize →
    Lists (· ∈ matching) scan.beforeUid before scan.selected
  cut : ∀ last, scan.selected.getLast? = some last → Lists (· ∈ matching) last before scan.selected

theorem Scan.sound_start (positive : 0 < before) :
    (Scan.start before).Sound matching pageSize before where
  positive := positive
  descends := Nat.le_refl _
  resumes := rfl
  exhausts := decide_eq_true_iff
  room := Nat.zero_le _
  complete _ := Lists.nil before
  cut _ impossible := by cases impossible

theorem Scan.windowStart_bounds (more : 1 < scan.beforeUid) :
    0 < scan.windowStart ∧ scan.windowStart ≤ scan.beforeUid - 1 := by
  unfold Scan.windowStart
  omega

theorem Scan.Sound.take (sound : scan.Sound matching pageSize before) (more : 1 < scan.beforeUid)
    (short : scan.selected.length < pageSize) {uids : List Nat}
    (exact : ∀ uid, uid ∈ uids ↔
      uid ∈ matching ∧ scan.windowStart ≤ uid ∧ uid ≤ scan.beforeUid - 1) :
    (scan.take pageSize uids).Sound matching pageSize before := by
  obtain ⟨positive, below⟩ := scan.windowStart_bounds more
  have listed : Lists (· ∈ matching) scan.windowStart scan.beforeUid
      (arrangeWindow scan.windowStart (scan.beforeUid - 1) uids) := by
    refine Lists.arranged _ (fun uid => ?_) (fun uid least less => ?_)
    · simp only [Bool.and_eq_true, decide_eq_true_eq]
      omega
    · rw [exact]
      exact ⟨And.left, fun chosen => ⟨chosen, least, by omega⟩⟩
  have lower : scan.windowStart ≤ scan.beforeUid := by omega
  obtain ⟨room, complete, cut⟩ := ((sound.complete short).append listed lower sound.descends).filled
    sound.room (scan.take pageSize uids).selected rfl
  refine ⟨positive, Nat.le_trans lower sound.descends, rfl, ?_, room, complete, cut⟩
  simp only [Scan.take, decide_eq_true_eq]
  omega

variable {Session : Type} {transport : ImapTransport Session} {live : Session → Prop}
  {mailbox : Mailbox} {term : Option MailSearchTerm}

theorem scanWindows_gives (serves : Serves transport live mailbox term matching)
    (known : before ≤ mailbox.uidNext) (windows : Nat) (sound : scan.Sound matching pageSize before) :
    Gives live (scanWindows transport term pageSize windows scan) fun after =>
      after.Sound matching pageSize before ∧ after.beforeUid ≤ scan.beforeUid ∧
        (0 < windows → 1 < scan.beforeUid → scan.selected.length < pageSize →
          after.beforeUid < scan.beforeUid) := by
  induction windows generalizing scan with
  | zero => exact Gives.pure ⟨sound, Nat.le_refl _, fun none => absurd none (Nat.lt_irrefl 0)⟩
  | succ windows ih =>
    unfold scanWindows
    split
    next ends =>
      refine Gives.pure ⟨⟨sound.positive, sound.descends, sound.resumes, decide_eq_true_iff, sound.room,
        sound.complete, sound.cut⟩, Nat.le_refl _, fun _ more short => ?_⟩
      omega
    next goes =>
      have more : 1 < scan.beforeUid := by omega
      have short : scan.selected.length < pageSize := by omega
      obtain ⟨positive, below⟩ := scan.windowStart_bounds more
      have inside : scan.beforeUid - 1 < mailbox.uidNext := by
        have := sound.descends
        omega
      refine (searchUidWindow_gives serves positive below inside).bind fun uids exact => ?_
      refine (ih (sound.take more short exact)).weaken fun after ⟨kept, lower, _⟩ => ?_
      have lower : after.beforeUid ≤ scan.windowStart := lower
      exact ⟨kept, by omega, fun _ _ _ => by omega⟩

theorem Scan.Sound.next (sound : scan.Sound matching pageSize before)
    (positive : ∀ uid ∈ matching, 0 < uid) (sized : 0 < pageSize)
    (further : 1 < before → scan.selected.length < pageSize → scan.beforeUid < before) :
    ∃ low, Lists (· ∈ matching) low before scan.selected ∧
      ((scan.nextBeforeUid pageSize).filter (1 < ·) = none ∧ low = 1 ∨
        (scan.nextBeforeUid pageSize).filter (1 < ·) = some low ∧ 1 < low ∧ low < before) := by
  unfold Scan.nextBeforeUid
  split
  next full =>
    have nonempty : scan.selected ≠ [] := by
      rintro empty
      rw [empty] at full
      exact absurd full.symm (Nat.pos_iff_ne_zero.mp sized)
    obtain ⟨last, ends⟩ : ∃ last, scan.selected.getLast? = some last :=
      ⟨_, List.getLast?_eq_some_getLast nonempty⟩
    have lists := sound.cut last ends
    obtain ⟨chosen, -, below⟩ := (lists.exact last).mp (List.mem_of_getLast? ends)
    have above := positive last chosen
    refine ⟨last, lists, ?_⟩
    rw [ends]
    by_cases lowest : last = 1
    · exact .inl ⟨by simp [lowest], lowest⟩
    · have more : 1 < last := by omega
      exact .inr ⟨by simp [more], more, below⟩
  next unfilled =>
    have short : scan.selected.length < pageSize := Nat.lt_of_le_of_ne sound.room unfilled
    refine ⟨scan.beforeUid, sound.complete short, ?_⟩
    have least := sound.positive
    have most := sound.descends
    rw [sound.resumes]
    by_cases ended : scan.exhausted = true
    · have lowest := sound.exhausts.mp ended
      exact .inl ⟨by simp [ended], by omega⟩
    · have more : 1 < scan.beforeUid := Nat.lt_of_not_le fun low => ended (sound.exhausts.mpr low)
      exact .inr ⟨by simp [ended, more], more, further (by omega) short⟩

end Scans

section Pages

variable {Session : Type} {transport : ImapTransport Session} {live : Session → Prop}
  {mailbox : Mailbox} {term : Option MailSearchTerm} {matching : Finset Nat}

/-- A page: the matching messages from some place on, and a cursor for what is below it. -/
def Mailbox.Pages (mailbox : Mailbox) (matching : Finset Nat) (bindingId : MailboxBindingId)
    (before : Nat) (page : QueryPage MailMessageSummary) : Prop :=
  ∃ low uids, Lists (· ∈ matching) low before uids ∧
    List.Forall₂ (Summarises bindingId mailbox.uidValidity) uids page.items ∧
    (page.nextCursor = none ∧ low = 1 ∨ ∃ cursor, page.nextCursor = some cursor ∧
      startOf (some cursor) ⟨mailbox.uidValidity, mailbox.uidNext⟩ = .ok low ∧ 1 < low ∧
      low < before)

theorem startOf_bounds {cursor : Option QueryCursor} {snapshot : ImapMailboxSnapshot}
    {before : Nat} (starts : startOf cursor snapshot = .ok before) :
    0 < before ∧ before ≤ snapshot.uidNext := by
  unfold startOf at starts
  obtain ⟨_, -, checks⟩ := bind_eq_ok.mp starts
  obtain ⟨_, inside, same⟩ := bind_eq_ok.mp checks
  cases same
  have := refuseIf_eq_ok.mp inside
  omega

theorem searchInSession_gives (serves : Serves transport live mailbox term matching)
    (known : matching ⊆ mailbox.uids) (bindingId : MailboxBindingId) (limit : QueryPageSize)
    {cursor : Option QueryCursor} {before : Nat}
    (starts : startOf cursor ⟨mailbox.uidValidity, mailbox.uidNext⟩ = .ok before) :
    Gives live (searchInSession transport bindingId ⟨term, limit, cursor⟩)
      (mailbox.Pages matching bindingId before) := by
  obtain ⟨positive, inside⟩ := startOf_bounds starts
  have inside : before ≤ mailbox.uidNext := inside
  unfold searchInSession
  refine (examineInbox_gives serves).bind ?_
  rintro _ rfl
  refine Gives.bind (Gives.lift starts rfl) ?_
  rintro _ rfl
  refine (scanWindows_gives serves inside maxImapSearchWindows
    (Scan.sound_start positive)).bind fun scan ⟨sound, _, further⟩ => ?_
  have room : 0 < min limit.value maxImapQueryPageSize :=
    Nat.lt_min.mpr ⟨limit.positive, by decide⟩
  obtain ⟨low, lists, next⟩ := sound.next
    (fun uid member => (mailbox.within uid (known member)).1) room
    (fun more _ => further (by decide) more room)
  refine (summaries_gives serves bindingId fun uid member =>
    known ((lists.exact uid).mp member).1).bind fun items all => ?_
  rcases next with ⟨ended, lowest⟩ | ⟨continued, more, below⟩
  · refine Gives.bind (Gives.lift (?_ : _ = Except.ok none) rfl) ?_
    · simp only [nextCursorOf, ended]
      rfl
    · rintro _ rfl
      exact Gives.pure ⟨low, scan.selected, lists, all, .inl ⟨rfl, lowest⟩⟩
  · have small : 0 < low ∧ low < u64Limit :=
      ⟨by omega, Nat.lt_trans (Nat.lt_of_lt_of_le below inside) mailbox.next.2⟩
    obtain ⟨cursor', made, spelled⟩ := imapQueryCursor_eq mailbox.validity.2 small.2
    refine Gives.bind (Gives.lift (?_ : _ = Except.ok (some cursor')) rfl) ?_
    · simp only [nextCursorOf, continued, made]
      rfl
    · rintro _ rfl
      refine Gives.pure ⟨low, scan.selected, lists, all, .inr ⟨cursor', rfl, ?_, more, below⟩⟩
      have fits : ¬(low = 0 ∨ mailbox.uidNext < low) := by omega
      exact bind_eq_ok.mpr ⟨low, parseImapCursor_eq mailbox.validity small spelled,
        bind_eq_ok.mpr ⟨(), refuseIf_passes fits, rfl⟩⟩

/-- One call: its page limit, and the session it connects. -/
structure Visit (Session : Type) where
  limit : QueryPageSize
  connected : Except ImapTransportError Session

/-- Calls with the cursor of the page before, until a page has none: all items, and whether
that page was reached. -/
def searchAll (transport : ImapTransport Session) (bindingId : MailboxBindingId)
    (term : Option MailSearchTerm) :
    Option QueryCursor → List (Visit Session) → Except QueryPortError (List MailMessageSummary × Bool)
  | _, [] => .ok ([], false)
  | cursor, visit :: visits => do
    let page ← searchImapMessages transport bindingId ⟨term, visit.limit, cursor⟩ visit.connected
    match page.nextCursor with
    | none => return (page.items, true)
    | some next => (searchAll transport bindingId term (some next) visits).map fun rest =>
        (page.items ++ rest.1, rest.2)

theorem searchAll_lists (serves : Serves transport live mailbox term matching)
    (known : matching ⊆ mailbox.uids) (bindingId : MailboxBindingId)
    {visits : List (Visit Session)}
    (connects : ∀ visit ∈ visits, ∃ session, visit.connected = .ok session ∧ live session)
    {cursor : Option QueryCursor} {before : Nat}
    (starts : startOf cursor ⟨mailbox.uidValidity, mailbox.uidNext⟩ = .ok before)
    (enough : before ≤ visits.length) :
    ∃ uids items, searchAll transport bindingId term cursor visits = .ok (items, true) ∧
      Lists (· ∈ matching) 1 before uids ∧
      List.Forall₂ (Summarises bindingId mailbox.uidValidity) uids items := by
  induction visits generalizing cursor before with
  | nil => exact absurd (startOf_bounds starts).1 (by simpa using enough)
  | cons visit visits ih =>
    obtain ⟨⟨session, connected, joined⟩, others⟩ := List.forall_mem_cons.mp connects
    obtain ⟨page, after, searched, -, low, uids, lists, all, ends⟩ :=
      searchInSession_gives serves known bindingId visit.limit starts session joined
    have returned : searchImapMessages transport bindingId ⟨term, visit.limit, cursor⟩
        visit.connected = .ok page := by
      unfold searchImapMessages
      rw [connected]
      exact bind_eq_ok.mpr ⟨session, rfl, bind_eq_ok.mpr ⟨(page, after), searched, rfl⟩⟩
    rcases ends with ⟨last, rfl⟩ | ⟨next, continued, resumes, more, below⟩
    · refine ⟨uids, page.items, bind_eq_ok.mpr ⟨page, returned, ?_⟩, lists, all⟩
      rw [last]
      rfl
    · obtain ⟨rest, items, found, listed, summarised⟩ := ih others resumes
        (by rw [List.length_cons] at enough; omega)
      refine ⟨uids ++ rest, page.items ++ items, bind_eq_ok.mpr ⟨page, returned, ?_⟩,
        lists.append listed more.le below.le, List.rel_append all summarised⟩
      rw [continued]
      dsimp only
      rw [found]
      rfl

/-- Against a mailbox that stays as it is, calls that follow the cursors come to an end, and
together return every matching message once, the highest UID first. -/
theorem paged_search_complete (serves : Serves transport live mailbox term matching)
    (known : matching ⊆ mailbox.uids) (bindingId : MailboxBindingId)
    {visits : List (Visit Session)}
    (connects : ∀ visit ∈ visits, ∃ session, visit.connected = .ok session ∧ live session)
    (enough : mailbox.uidNext ≤ visits.length) :
    ∃ uids items, searchAll transport bindingId term none visits = .ok (items, true) ∧
      uids.Pairwise (· > ·) ∧ (∀ uid, uid ∈ uids ↔ uid ∈ matching) ∧
      List.Forall₂ (Summarises bindingId mailbox.uidValidity) uids items := by
  have starts : startOf none ⟨mailbox.uidValidity, mailbox.uidNext⟩ = .ok mailbox.uidNext := by
    have fits : ¬(mailbox.uidNext = 0 ∨ mailbox.uidNext < mailbox.uidNext) := by
      have := mailbox.next.1
      omega
    exact bind_eq_ok.mpr ⟨mailbox.uidNext, rfl, bind_eq_ok.mpr ⟨(), refuseIf_passes fits, rfl⟩⟩
  obtain ⟨uids, items, found, lists, all⟩ :=
    searchAll_lists serves known bindingId connects starts enough
  refine ⟨uids, items, found, lists.descending, fun uid => ?_, all⟩
  rw [lists.exact]
  exact ⟨And.left, fun chosen => ⟨chosen, mailbox.within uid (known chosen)⟩⟩

end Pages

namespace SampleSearch

/-- Two messages, which a search for all messages finds. -/
def mailbox : Mailbox := ⟨7, 3, {1, 2}, by decide, by decide, by decide⟩

def bindingId : MailboxBindingId := ⟨⟨"binding-search", by decide⟩⟩

def completed (untagged : String) : ImapCommandResponse :=
  ⟨ascii untagged ++ crlf ++ ascii "p000001 OK done" ++ crlf, .ok⟩

def examined : ImapCommandResponse :=
  completed "* OK [UIDVALIDITY 7] valid\r\n* OK [UIDNEXT 3] next"

def fetched (uid : String) : ImapCommandResponse :=
  completed ("* 1 FETCH (UID " ++ uid ++
    " INTERNALDATE \"17-Jul-1996 02:44:25 +0000\" BODY[] \x7b13\x7d\r\nSubject: Note)")

/-- The answers, of which a search lists the lower UID first. -/
def conversation : List (Bytes × ImapCommandResponse) :=
  [(examineCommand, examined),
    (ascii "UID SEARCH " ++ windowBytes 1 1, completed "* SEARCH 1"),
    (ascii "UID SEARCH " ++ windowBytes 1 2, completed "* SEARCH 1 2"),
    (ascii "UID SEARCH " ++ windowBytes 2 2, completed "* SEARCH 2"),
    (fetchCommand 1, fetched "1"), (fetchCommand 2, fetched "2")]

def reply (command : Bytes) : Except ImapTransportError ImapCommandResponse :=
  match conversation.lookup command with
  | some response => .ok response
  | none => .error .dependencyUnavailable

def transport : ImapTransport Unit :=
  ⟨fun session command _ => (reply command, session), fun session command _ _ => (reply command, session)⟩

def visits : List (Visit Unit) :=
  [⟨⟨1, by decide, by decide⟩, .ok ()⟩, ⟨⟨1, by decide, by decide⟩, .ok ()⟩,
    ⟨⟨100, by decide, by decide⟩, .ok ()⟩]

theorem lists_uids (uids : List Nat) (words : String) {found : Nat → Prop}
    (plain : (completed ("* SEARCH" ++ words)).textLossy =
      searchMark ++ ascii words ++ crlf ++ (ascii "p000001 OK done" ++ crlf))
    (line : 10 ∉ ascii words) (spelled : splitAsciiWhitespace (ascii words) = uids.map Decimal.digits)
    (exact : ∀ uid, uid ∈ uids ↔ found uid) :
    ListsFound found (completed ("* SEARCH" ++ words)).textLossy :=
  .listed [] (ascii words) _ uids plain (.inl rfl) (fun _ impossible => by cases impossible) line
    spelled exact

theorem serves : Serves transport (fun _ => True) mailbox none {1, 2} where
  examines := by
    intro session _
    refine ⟨examined, session, ?_, trivial, rfl, ⟨ascii " valid\r\n* OK [UIDNEXT 3] next" ++ crlf ++
      ascii "p000001 OK done" ++ crlf, ?_⟩, ⟨ascii " next" ++ crlf ++ ascii "p000001 OK done" ++ crlf,
      ?_⟩⟩
    · rfl
    · decide +kernel
    · decide +kernel
  searches := by
    intro start last positive ordered below session _
    have below : last < 3 := below
    obtain ⟨rfl, rfl⟩ | ⟨rfl, rfl⟩ | ⟨rfl, rfl⟩ :
        (start = 1 ∧ last = 1) ∨ (start = 1 ∧ last = 2) ∨ (start = 2 ∧ last = 2) := by omega
    · refine ⟨completed ("* SEARCH" ++ " 1"), session, rfl, trivial, rfl, ?_⟩
      exact lists_uids [1] " 1" (by decide +kernel) (by decide) (by decide +kernel) (by simp; omega)
    · refine ⟨completed ("* SEARCH" ++ " 1 2"), session, rfl, trivial, rfl, ?_⟩
      exact lists_uids [1, 2] " 1 2" (by decide +kernel) (by decide) (by decide +kernel)
        (by simp)
    · refine ⟨completed ("* SEARCH" ++ " 2"), session, rfl, trivial, rfl, ?_⟩
      exact lists_uids [2] " 2" (by decide +kernel) (by decide) (by decide +kernel) (by simp; omega)
  fetches := by
    intro uid member session _
    obtain rfl | rfl : uid = 1 ∨ uid = 2 := by simpa [mailbox] using member
    · refine ⟨fetched "1", session, rfl, trivial, rfl, _, rfl⟩
    · refine ⟨fetched "2", session, rfl, trivial, rfl, _, rfl⟩

end SampleSearch

/-- Three calls for one message each are enough. -/
theorem paged_search_complete_two : ∃ uids items,
    searchAll SampleSearch.transport SampleSearch.bindingId none none SampleSearch.visits =
      .ok (items, true) ∧ uids.Pairwise (· > ·) ∧ (∀ uid, uid ∈ uids ↔ uid ∈ ({1, 2} : Finset Nat)) ∧
      List.Forall₂ (Summarises SampleSearch.bindingId SampleSearch.mailbox.uidValidity) uids items :=
  paged_search_complete SampleSearch.serves (by decide) SampleSearch.bindingId
    (by
      intro visit member
      simp only [SampleSearch.visits, List.mem_cons, List.not_mem_nil, or_false] at member
      rcases member with rfl | rfl | rfl <;> exact ⟨(), rfl, trivial⟩)
    (by decide)

end ProfilePlatform.Imap
