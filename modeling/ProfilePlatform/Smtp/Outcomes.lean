import ProfilePlatform.Smtp.Framing

/-! What the outcome of a message says about the server.

Every turn of the dialogue is one write and the reply to it. The turn of the message comes
after those of the sender, of each recipient and of DATA. Up to there nothing of the message
has been written. From there on the outcome is what the reply says, or it stays open.
-/

set_option autoImplicit false

namespace ProfilePlatform.Smtp

open Foundation
open Imap (Bytes ascii crlf)

section Framing

variable {replies : List ServerReply}

/-- So many replies of the server have been read, and the reads bring the others. -/
def Framed (replies : List ServerReply) (socket : SmtpSocket) : Prop :=
  ∃ gone later, replies = gone ++ later ∧ socket.heard = gone.map ServerReply.read ∧
    Delivers later socket.reads

/-- What has been read is what the server sent first. -/
def Heard (replies : List ServerReply) (socket : SmtpSocket) : Prop :=
  socket.heard <+: replies.map ServerReply.read

theorem Framed.heard {socket : SmtpSocket} (framed : Framed replies socket) :
    Heard replies socket := by
  obtain ⟨gone, later, rfl, heard, -⟩ := framed
  exact ⟨later.map ServerReply.read, by rw [heard, List.map_append]⟩

theorem readReplyInner_framed (ioFailure protocolFailure : SmtpSendFailure) :
    Leads (Framed replies) (readReplyInner ioFailure protocolFailure) (fun _ => Framed replies)
      fun _ => Heard replies := by
  rintro ⟨reads, writes, written, heard⟩ framed
  have prefixed : heard <+: replies.map ServerReply.read := framed.heard
  obtain ⟨gone, later, rfl, same, delivers⟩ := framed
  have delivers : Delivers later reads := delivers
  cases delivers with
  | broken breaks =>
    obtain ⟨why, left, failed⟩ :
        ∃ why left, readReplyFrom ioFailure protocolFailure [] reads = (.error why, left) :=
      readReplyFrom_breaks breaks
    simp only [outcome, readReplyInner, failed]
    exact prefixed
  | @reply reply chunks replies reads spaced short delivery next =>
    have received : readReplyFrom ioFailure protocolFailure [] (chunks.map some ++ reads) =
        (.ok reply.read, reads) :=
      readReplyFrom_delivery spaced short reads delivery.nonempty delivery.whole delivery.aligned
    have same : heard = gone.map ServerReply.read := same
    simp only [outcome, readReplyInner, received]
    exact ⟨gone ++ [reply], replies, by simp, by simp [same], next⟩

theorem writeAll_framed (bytes : Bytes) (failure : SmtpSendFailure) :
    Leads (Framed replies) (writeAll bytes failure) (fun _ => Framed replies)
      fun _ => Heard replies := by
  rintro ⟨reads, writes, written, heard⟩ framed
  have prefixed : heard <+: replies.map ServerReply.read := framed.heard
  cases writes with
  | nil => exact prefixed
  | cons write rest => cases write with
    | none => exact framed
    | some count => exact prefixed

theorem sendCommand_framed (command : Bytes) :
    Leads (Framed replies) (sendCommand command) (fun _ => Framed replies)
      fun _ => Heard replies := by
  unfold sendCommand
  split
  · exact .throw fun _ => Framed.heard
  · exact .bind (writeAll_framed _ _) fun _ => readReplyInner_framed _ _

theorem ignored_framed (command : Bytes) {never : SmtpSendFailure → SmtpSocket → Prop} :
    Leads (Framed replies) (ignored (sendCommand command)) (fun _ => Heard replies) never :=
  .ignored ((sendCommand_framed command).weaken (fun _ => id) (fun _ _ => Framed.heard)
    fun _ _ => id)

theorem announceRecipients_framed (recipients : List Bytes) :
    Leads (Framed replies) (announceRecipients recipients) (fun _ => Framed replies)
      fun _ => Heard replies := by
  induction recipients with
  | nil => exact .pure fun _ => id
  | cons recipient rest ih =>
    refine .bind (sendCommand_framed _) fun reply => ?_
    split
    · exact ih
    · exact .bind (ignored_framed _) fun _ => .throw fun _ => id

theorem transferMessage_framed (message : Bytes) :
    Leads (Framed replies) (transferMessage message) (fun _ => Heard replies)
      fun _ => Heard replies := by
  have stuffs : Leads (Framed replies) (ExceptT.mk (pure (dotStuffedMessage message)))
      (fun _ => Framed replies) fun _ => Heard replies :=
    .lift (fun _ _ _ => id) fun _ _ _ => Framed.heard
  refine .bind stuffs fun wire => .bind (writeAll_framed _ _) fun _ =>
    .bind (readReplyInner_framed _ _) fun reply => ?_
  split
  · exact ignored_framed _
  · exact .throw fun _ => Framed.heard

theorem sendMessage_framed (ehlo : SmtpReply) (envelopeFrom : Bytes) (recipients : List Bytes)
    (message : Bytes) :
    Leads (Framed replies) (sendMessage ehlo envelopeFrom recipients message)
      (fun _ => Heard replies) fun _ => Heard replies := by
  unfold sendMessage
  split
  · exact .throw fun _ => Framed.heard
  split
  · exact .throw fun _ => Framed.heard
  refine .bind (sendCommand_framed _) fun reply => ?_
  split
  · exact .throw fun _ => Framed.heard
  refine .bind (announceRecipients_framed _) fun _ => .bind (sendCommand_framed _) fun data => ?_
  split
  · exact .throw fun _ => Framed.heard
  exact transferMessage_framed message

end Framing

section Turns

variable {turns : Nat} {message : Bytes}

/-- So many turns are complete. -/
def At (turns : Nat) (socket : SmtpSocket) : Prop :=
  socket.written.length = turns ∧ socket.heard.length = turns

/-- The bytes, or a beginning of them, are what was written in the turn. -/
def Written (turns : Nat) (bytes : Bytes) (socket : SmtpSocket) : Prop :=
  ∃ sent, socket.written[turns]? = some sent ∧ sent <+: bytes

/-- The turn has begun, and its reply is not there yet. -/
def Began (turns : Nat) (bytes : Bytes) (socket : SmtpSocket) : Prop :=
  socket.written.length = turns + 1 ∧ socket.heard.length = turns ∧ Written turns bytes socket

theorem writeAll_began (bytes : Bytes) (failure : SmtpSendFailure) :
    Leads (At turns) (writeAll bytes failure) (fun _ => Began turns bytes)
      fun why socket => why = failure ∧ Began turns bytes socket := by
  rintro ⟨reads, writes, written, heard⟩ ⟨rfl, heardLength⟩
  have began (sent : Bytes) (front : sent <+: bytes) (writes : List (Option Nat)) :
      Began written.length bytes ⟨reads, writes, written ++ [sent], heard⟩ :=
    ⟨by simp, heardLength, sent, by simp, front⟩
  cases writes with
  | nil => exact ⟨rfl, began [] List.nil_prefix []⟩
  | cons write rest => cases write with
    | none => exact began bytes (List.prefix_refl _) rest
    | some count => exact ⟨rfl, began _ (List.take_prefix _ _) rest⟩

theorem readReplyFrom_failure (ioFailure protocolFailure : SmtpSendFailure) (output : Bytes)
    (reads : List (Option Bytes)) {why : SmtpSendFailure} {left : List (Option Bytes)}
    (failed : readReplyFrom ioFailure protocolFailure output reads = (.error why, left)) :
    why = ioFailure ∨ why = protocolFailure := by
  induction reads generalizing output with
  | nil =>
    cases failed
    exact .inl rfl
  | cons read rest ih =>
    unfold readReplyFrom at failed
    split at failed
    · cases failed
      exact .inl rfl
    · cases failed
      exact .inl rfl
    · cases failed
      exact .inl rfl
    next same =>
      cases same
      split at failed
      · cases failed
        exact .inr rfl
      split at failed
      · cases failed
      · exact ih _ failed

/-- The turn is complete with this reply. -/
def Replied (turns : Nat) (bytes : Bytes) (reply : SmtpReply) (socket : SmtpSocket) : Prop :=
  At (turns + 1) socket ∧ socket.heard[turns]? = some reply ∧ Written turns bytes socket

theorem readReplyInner_replied {bytes : Bytes} (ioFailure protocolFailure : SmtpSendFailure) :
    Leads (Began turns bytes) (readReplyInner ioFailure protocolFailure) (Replied turns bytes)
      fun why socket => (why = ioFailure ∨ why = protocolFailure) ∧ Began turns bytes socket := by
  rintro ⟨reads, writes, written, heard⟩ ⟨writtenLength, heardLength, sent⟩
  cases received : readReplyFrom ioFailure protocolFailure [] reads with
  | mk result left =>
    cases result with
    | ok reply =>
      simp only [outcome, readReplyInner, received]
      have heardLength : heard.length = turns := heardLength
      exact ⟨⟨writtenLength, by simp [heardLength]⟩, by simp [← heardLength], sent⟩
    | error why =>
      simp only [outcome, readReplyInner, received]
      exact ⟨readReplyFrom_failure _ _ _ _ received, writtenLength, heardLength, sent⟩

/-- Nothing has been written in the turn, and the failure leaves nothing open. -/
def Unsent (turns : Nat) (why : SmtpSendFailure) (socket : SmtpSocket) : Prop :=
  why ≠ .ambiguous ∧ socket.written.length ≤ turns

theorem sendCommand_turn (command : Bytes) :
    Leads (At turns) (sendCommand command) (fun _ => At (turns + 1)) (Unsent (turns + 1)) := by
  unfold sendCommand
  split
  · exact .throw fun socket at_ => ⟨by decide, by rw [at_.1]; omega⟩
  · refine .bind ((writeAll_began _ _).weaken (fun _ => id) (fun _ _ => id) ?_) fun _ =>
      (readReplyInner_replied _ _).weaken (fun _ => id) (fun _ _ replied => replied.1) ?_
    · rintro _ socket ⟨rfl, began⟩
      exact ⟨by decide, began.1.le⟩
    · rintro _ socket ⟨rfl | rfl, began⟩ <;> exact ⟨by decide, began.1.le⟩

theorem classifyPreAcceptance_ne (code : Nat) : classifyPreAcceptance code ≠ .ambiguous := by
  unfold classifyPreAcceptance
  split
  · decide
  split <;> decide

theorem Unsent.later {more : Nat} {why : SmtpSendFailure} {socket : SmtpSocket}
    (unsent : Unsent turns why socket) (further : turns ≤ more) : Unsent more why socket :=
  ⟨unsent.1, unsent.2.trans further⟩

theorem announceRecipients_turns (recipients : List Bytes) :
    Leads (At turns) (announceRecipients recipients) (fun _ => At (turns + recipients.length))
      (Unsent (turns + recipients.length + 1)) := by
  induction recipients generalizing turns with
  | nil => exact .pure fun _ => id
  | cons recipient rest ih =>
    rw [List.length_cons]
    refine .bind ((sendCommand_turn _).weaken (fun _ => id) (fun _ _ => id)
      fun _ _ unsent => unsent.later (by omega)) fun reply => ?_
    split
    · have goes : Leads (At (turns + 1)) (announceRecipients rest)
          (fun _ => At (turns + 1 + rest.length)) (Unsent (turns + 1 + rest.length + 1)) := ih
      rw [show turns + 1 + rest.length = turns + (rest.length + 1) by omega] at goes
      exact goes
    · have reset : Leads (At (turns + 1)) (ignored (sendCommand (ascii "RSET")))
          (fun _ socket => socket.written.length ≤ turns + 2)
          (Unsent (turns + (rest.length + 1) + 1)) :=
        .ignored ((sendCommand_turn _).weaken (fun _ => id) (fun _ _ at_ => at_.1.le)
          fun _ _ unsent => unsent.2)
      exact .bind reset fun _ => .throw fun socket written =>
        ⟨classifyPreAcceptance_ne _, written.trans (by omega)⟩

/-- The message, or a beginning of it, has been written in its turn. -/
def Transferred (turns : Nat) (message : Bytes) (socket : SmtpSocket) : Prop :=
  ∃ wire, dotStuffedMessage message = .ok wire ∧ Written turns wire socket

/-- How a message ends whose turn comes after so many others. -/
inductive Concludes (turns : Nat) (message : Bytes) (socket : SmtpSocket) :
    Except SmtpSendFailure Unit → Prop where
  | unsent {why : SmtpSendFailure} (unsent : Unsent turns why socket) :
      Concludes turns message socket (.error why)
  | silent (transferred : Transferred turns message socket)
      (unheard : socket.heard.length = turns) : Concludes turns message socket (.error .ambiguous)
  | answered {reply : SmtpReply} (transferred : Transferred turns message socket)
      (heard : socket.heard[turns]? = some reply) :
      Concludes turns message socket (conclude reply.code)

theorem sendCommand_keeps (command : Bytes) {known : SmtpSocket → Prop}
    (persists : ∀ socket after, known socket → socket.written <+: after.written →
      socket.heard <+: after.heard → known after) :
    Leads known (sendCommand command) (fun _ => known) fun _ => known := by
  unfold sendCommand
  split
  · exact .throw fun _ => id
  have writes : Leads known (writeAll (command ++ crlf) .retryableNotSent) (fun _ => known)
      fun _ => known := by
    rintro ⟨reads, writes, written, heard⟩ holds
    have appended (sent : Bytes) (writes : List (Option Nat)) :
        known ⟨reads, writes, written ++ [sent], heard⟩ :=
      persists _ _ holds (List.prefix_append _ _) (List.prefix_refl _)
    cases writes with
    | nil => exact appended [] []
    | cons write rest => cases write with
      | none => exact appended _ rest
      | some count => exact appended _ rest
  refine .bind writes fun _ => ?_
  rintro ⟨reads, writes, written, heard⟩ holds
  cases received : readReplyFrom .retryableNotSent .integrityFailure [] reads with
  | mk result left =>
    simp only [outcome, readReply, readReplyInner, received]
    cases result with
    | ok reply => exact persists _ _ holds (List.prefix_refl _) (List.prefix_append _ _)
    | error why => exact persists _ _ holds (List.prefix_refl _) (List.prefix_refl _)

theorem getElem?_prefix {A : Type} {front whole : List A} {place : Nat} {item : A}
    (begins : front <+: whole) (found : front[place]? = some item) : whole[place]? = some item := by
  obtain ⟨rest, rfl⟩ := begins
  have inside : place < front.length := (List.getElem?_eq_some_iff.mp found).1
  rw [List.getElem?_append_left inside]
  exact found

theorem transferMessage_concludes (message : Bytes) :
    Leads (At turns) (transferMessage message)
      (fun _ socket => Concludes turns message socket (.ok ()))
      fun why socket => Concludes turns message socket (.error why) := by
  have stuffs : Leads (At turns) (ExceptT.mk (pure (dotStuffedMessage message)))
      (fun wire socket => dotStuffedMessage message = .ok wire ∧ At turns socket)
      fun why socket => Concludes turns message socket (.error why) := by
    refine .lift (fun wire same socket at_ => ⟨same, at_⟩) fun why same socket at_ => ?_
    refine .unsent ⟨?_, at_.1.le⟩
    unfold dotStuffedMessage at same
    split at same
    · cases same
      decide
    · cases same
  refine .bind stuffs fun wire => ?_
  suffices goes : dotStuffedMessage message = .ok wire → Leads (At turns) _ _ _ from
    fun socket ⟨same, at_⟩ => goes same socket at_
  intro same
  refine .bind ((writeAll_began wire .ambiguous).weaken (fun _ => id) (fun _ _ => id) ?_) fun _ => ?_
  · rintro _ socket ⟨rfl, began⟩
    exact .silent ⟨wire, same, began.2.2⟩ began.2.1
  refine .bind ((readReplyInner_replied .ambiguous .ambiguous).weaken (fun _ => id)
    (fun _ _ => id) ?_) fun reply => ?_
  · rintro _ socket ⟨rfl | rfl, began⟩ <;> exact .silent ⟨wire, same, began.2.2⟩ began.2.1
  have answered (socket : SmtpSocket) (replied : Replied turns wire reply socket) :
      Transferred turns message socket ∧ socket.heard[turns]? = some reply :=
    ⟨⟨wire, same, replied.2.2⟩, replied.2.1⟩
  cases concluded : conclude reply.code with
  | ok done =>
    have keeps : Leads
        (fun socket => Transferred turns message socket ∧ socket.heard[turns]? = some reply)
        (sendCommand (ascii "QUIT"))
        (fun _ socket => Transferred turns message socket ∧ socket.heard[turns]? = some reply)
        fun _ socket => Transferred turns message socket ∧ socket.heard[turns]? = some reply := by
      refine sendCommand_keeps _ ?_
      rintro socket after ⟨⟨wire, stuffed, sent, found, front⟩, heard⟩ written replies
      exact ⟨⟨wire, stuffed, sent, getElem?_prefix written found, front⟩,
        getElem?_prefix replies heard⟩
    refine (Leads.ignored keeps).weaken answered ?_ fun _ _ => id
    rintro _ socket ⟨transferred, heard⟩
    exact concluded ▸ .answered transferred heard
  | error why =>
    exact .throw fun socket replied =>
      concluded ▸ .answered (answered socket replied).1 (answered socket replied).2

/-- The turns before that of the message: the sender, the recipients and DATA. -/
def turnsBefore (recipients : List Bytes) : Nat := recipients.length + 2

theorem sendMessage_concludes (ehlo : SmtpReply) (envelopeFrom : Bytes) (recipients : List Bytes)
    (message : Bytes) :
    Leads (At 0) (sendMessage ehlo envelopeFrom recipients message)
      (fun _ socket => Concludes (turnsBefore recipients) message socket (.ok ()))
      fun why socket => Concludes (turnsBefore recipients) message socket (.error why) := by
  have unsent {turns : Nat} (early : turns ≤ turnsBefore recipients) (why : SmtpSendFailure)
      (socket : SmtpSocket) (fails : Unsent turns why socket) :
      Concludes (turnsBefore recipients) message socket (.error why) := .unsent (fails.later early)
  have refused {turns : Nat} (early : turns ≤ turnsBefore recipients) {why : SmtpSendFailure}
      (settled : why ≠ .ambiguous) (socket : SmtpSocket) (at_ : At turns socket) :
      Concludes (turnsBefore recipients) message socket (.error why) :=
    unsent early why socket ⟨settled, at_.1.le⟩
  unfold sendMessage
  split
  · exact .throw (refused (Nat.zero_le _) (by decide))
  split
  · exact .throw (refused (Nat.zero_le _) (by decide))
  have sender : 1 ≤ turnsBefore recipients := Nat.succ_le_succ (Nat.zero_le _)
  refine .bind ((sendCommand_turn _).weaken (fun _ => id) (fun _ _ => id) (unsent sender))
    fun reply => ?_
  split
  · exact .throw (refused sender (classifyPreAcceptance_ne _))
  have named : 1 + recipients.length + 1 ≤ turnsBefore recipients := by
    unfold turnsBefore
    omega
  refine .bind ((announceRecipients_turns recipients).weaken (fun _ => id) (fun _ _ => id)
    (unsent named)) fun _ => ?_
  refine .bind ((sendCommand_turn _).weaken (fun _ => id) (fun _ _ => id) (unsent named))
    fun data => ?_
  split
  · exact .throw (refused named (classifyPreAcceptance_ne _))
  rw [show 1 + recipients.length + 1 = turnsBefore recipients by unfold turnsBefore; omega]
  exact transferMessage_concludes message

end Turns

section Results

theorem conclude_eq_ok {code : Nat} : conclude code = .ok () ↔ 200 ≤ code ∧ code ≤ 299 := by
  unfold conclude
  split
  next positive => exact iff_of_true rfl positive
  next other =>
    refine iff_of_false ?_ other
    split
    · exact nofun
    split <;> exact nofun

theorem conclude_eq_ambiguous {code : Nat} : conclude code = .error .ambiguous ↔
    ¬(200 ≤ code ∧ code ≤ 299) ∧ ¬(400 ≤ code ∧ code ≤ 599) := by
  unfold conclude
  split
  next positive => exact iff_of_false nofun fun neither => neither.1 positive
  next other =>
    split
    next transient => exact iff_of_false (by simp) fun neither => neither.2 (by omega)
    next permanent =>
      split
      next final => exact iff_of_false (by simp) fun neither => neither.2 (by omega)
      next unknown => exact iff_of_true rfl ⟨other, by omega⟩

theorem conclude_ne_integrityFailure (code : Nat) : conclude code ≠ .error .integrityFailure := by
  unfold conclude
  split
  · exact nofun
  split
  · simp
  split <;> simp

variable {replies : List ServerReply} {turns : Nat} {message : Bytes} {socket : SmtpSocket}

theorem Unsent.untransferred {why : SmtpSendFailure} (unsent : Unsent turns why socket) :
    ¬Transferred turns message socket := by
  rintro ⟨wire, -, sent, found, -⟩
  have inside := (List.getElem?_eq_some_iff.mp found).1
  have bound := unsent.2
  omega

theorem Heard.final (heard : Heard replies socket) {reply : SmtpReply}
    (found : socket.heard[turns]? = some reply) :
    ∃ final, replies[turns]? = some final ∧ final.code = reply.code := by
  have sent := getElem?_prefix heard found
  rw [List.getElem?_map, Option.map_eq_some_iff] at sent
  obtain ⟨final, placed, rfl⟩ := sent
  exact ⟨final, placed, rfl⟩

/-- The server may have accepted the message: something of it was sent, and if there is a reply
to it, that reply is positive. -/
def MayHaveAccepted (replies : List ServerReply) (turns : Nat) (message : Bytes)
    (socket : SmtpSocket) : Prop :=
  Transferred turns message socket ∧ ∀ final ∈ replies[turns]?, 200 ≤ final.code ∧ final.code ≤ 299

/-- When every reply ends with a chunk that no other chunk anticipates, the session reads what
the server sent, and its outcome is sound however the dialogue breaks off. -/
theorem send_message_sound {reads : List (Option Bytes)} (delivers : Delivers replies reads)
    (writes : List (Option Nat)) (ehlo : SmtpReply) (envelopeFrom : Bytes)
    (recipients : List Bytes) (message : Bytes) {result : Except SmtpSendFailure Unit}
    (ends : outcome (sendMessage ehlo envelopeFrom recipients message) ⟨reads, writes, [], []⟩ =
      (result, socket)) :
    socket.heard <+: replies.map ServerReply.read ∧
      (result = .ok () → ∃ final ∈ replies[turnsBefore recipients]?,
        200 ≤ final.code ∧ final.code ≤ 299) ∧
      (result = .error .retryableNotSent ∨ result = .error .rejected →
        ¬MayHaveAccepted replies (turnsBefore recipients) message socket) ∧
      (result = .error .integrityFailure →
        ¬Transferred (turnsBefore recipients) message socket) ∧
      (result = .error .ambiguous ↔ Transferred (turnsBefore recipients) message socket ∧
        ∀ final ∈ socket.heard[turnsBefore recipients]?,
          ¬(200 ≤ final.code ∧ final.code ≤ 299) ∧ ¬(400 ≤ final.code ∧ final.code ≤ 599)) := by
  have framed := @sendMessage_framed replies ehlo envelopeFrom recipients message
    ⟨reads, writes, [], []⟩ ⟨[], replies, rfl, rfl, delivers⟩
  have concludes := sendMessage_concludes ehlo envelopeFrom recipients message
    ⟨reads, writes, [], []⟩ ⟨rfl, rfl⟩
  rw [ends] at framed concludes
  have heard : Heard replies socket := by
    cases result <;> exact framed
  have concluded : Concludes (turnsBefore recipients) message socket result := by
    cases result <;> exact concludes
  refine ⟨heard, ?_⟩
  clear ends framed concludes
  cases concluded with
  | @unsent why unsent =>
    refine ⟨nofun, fun _ may => unsent.untransferred may.1, fun _ => unsent.untransferred, ?_⟩
    exact iff_of_false (fun same => unsent.1 (Except.error.inj same))
      fun both => unsent.untransferred both.1
  | silent transferred unheard =>
    refine ⟨nofun, nofun, nofun, iff_of_true rfl ⟨transferred, fun final found => ?_⟩⟩
    have inside := (List.getElem?_eq_some_iff.mp found).1
    omega
  | @answered reply transferred found =>
    obtain ⟨final, placed, code⟩ := heard.final found
    refine ⟨fun accepted => ⟨final, placed, code ▸ conclude_eq_ok.mp accepted⟩, ?_, ?_, ?_⟩
    · rintro refused ⟨-, positive⟩
      have accepted : conclude reply.code = .ok () := conclude_eq_ok.mpr (code ▸ positive final placed)
      rw [accepted] at refused
      exact refused.elim nofun nofun
    · exact fun impossible => absurd impossible (conclude_ne_integrityFailure _)
    · rw [conclude_eq_ambiguous, found]
      constructor
      · rintro unsettled
        exact ⟨transferred, fun other same => Option.some.inj same ▸ unsettled⟩
      · exact fun both => both.2 reply rfl

end Results

namespace SampleDialogue

def reply (code : Nat) (three : 100 ≤ code ∧ code < 1000) (text : String)
    (plain : ∀ byte ∈ ascii text, byte ≠ 10 ∧ byte ≠ 13) : ServerReply :=
  ⟨code, three, [], some (ascii text), nofun, by rintro _ ⟨⟩; exact plain⟩

def senderOk : ServerReply := reply 250 (by decide) "sender ok" (by decide +kernel)
def recipientOk : ServerReply := reply 250 (by decide) "recipient ok" (by decide +kernel)
def goOn : ServerReply := reply 354 (by decide) "go on" (by decide +kernel)
def queued : ServerReply := reply 250 (by decide) "queued" (by decide +kernel)

def replies : List ServerReply := [senderOk, recipientOk, goOn, queued]

def session (reads : List (Option Bytes)) : Except SmtpSendFailure Unit × SmtpSocket :=
  outcome (sendMessage ⟨250, ascii "250 ready" ++ crlf⟩ (ascii "a@example.test")
    [ascii "b@example.test"] (ascii "Hello")) ⟨reads, List.replicate 6 none, [], []⟩

/-- Cut in front of the last line's text, and between replies. -/
def aligned : List (Option Bytes) :=
  [some (ascii "25"), some (ascii "0 sender ok" ++ crlf), some recipientOk.bytes,
    some (ascii "354"), some (ascii " go on" ++ crlf), some queued.bytes]

/-- Cut in the text of the last line. -/
def misaligned : List (Option Bytes) :=
  [some (ascii "250 send"), some (ascii "er ok" ++ crlf), some recipientOk.bytes, some goOn.bytes,
    some queued.bytes]

theorem delivers_whole {reply : ServerReply} {later : List ServerReply}
    {reads : List (Option Bytes)} (spaced : reply.last.isSome)
    (short : reply.bytes.length ≤ maxReplyBytes) (delivers : Delivers later reads) :
    Delivers (reply :: later) (some reply.bytes :: reads) := by
  have nonempty : reply.bytes ≠ [] := by
    have long := reply.lastLine_length
    intro empty
    have none := congrArg List.length empty
    simp only [ServerReply.bytes, List.length_append, List.length_nil] at none
    omega
  have delivery : reply.Delivery [reply.bytes] :=
    ⟨by simpa using nonempty, List.flatten_singleton, Nat.zero_le _⟩
  exact .reply spaced short delivery delivers

theorem delivers_aligned : Delivers replies aligned := by
  have ends : Delivers [] [] :=
    .broken (@Breaks.stops senderOk [] [] nofun ⟨List.nil_prefix, Nat.zero_le _⟩ .closed)
  have fourth : Delivers [queued] [some queued.bytes] :=
    delivers_whole rfl (by decide +kernel) ends
  have data : goOn.Delivery [ascii "354", ascii " go on" ++ crlf] :=
    ⟨by decide +kernel, by decide +kernel, by decide +kernel⟩
  have sender : senderOk.Delivery [ascii "25", ascii "0 sender ok" ++ crlf] :=
    ⟨by decide +kernel, by decide +kernel, by decide +kernel⟩
  have third := Delivers.reply rfl (by decide +kernel) data fourth
  have second := @delivers_whole recipientOk _ _ rfl (by decide +kernel) third
  exact .reply rfl (by decide +kernel) sender second

theorem session_aligned : session aligned = (.ok (), (session aligned).2) := rfl

end SampleDialogue

/-- A message is accepted over a dialogue that is cut in three replies. -/
theorem send_message_sound_accepted :
    (SampleDialogue.session SampleDialogue.aligned).1 = .ok () ∧
      (SampleDialogue.session SampleDialogue.aligned).2.heard <+:
        SampleDialogue.replies.map ServerReply.read ∧
      ∃ final ∈ SampleDialogue.replies[turnsBefore [ascii "b@example.test"]]?,
        200 ≤ final.code ∧ final.code ≤ 299 :=
  have sound := send_message_sound SampleDialogue.delivers_aligned _ _ _ _ _
    SampleDialogue.session_aligned
  ⟨rfl, sound.1, sound.2.1 rfl⟩

/-- A cut in the last line, behind the code: the beginning of the reply is taken for it, and
the rest for the next one. And a reply that fits no turn is neither a refusal nor ambiguous. -/
theorem dialogue_unsound :
    (SampleDialogue.misaligned.filterMap id).flatten =
        SampleDialogue.replies.flatMap ServerReply.bytes ∧
      ¬(SampleDialogue.session SampleDialogue.misaligned).2.heard <+:
        SampleDialogue.replies.map ServerReply.read ∧
      (SampleDialogue.session SampleDialogue.misaligned).1 = .error .retryableNotSent ∧
      (SampleDialogue.session [some SampleDialogue.goOn.bytes]).1 = .error .integrityFailure := by
  refine ⟨by decide +kernel, by decide +kernel, rfl, rfl⟩

end ProfilePlatform.Smtp
