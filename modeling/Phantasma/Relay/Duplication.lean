import Phantasma.Relay.Invariant

/-!
# Whether a message is put on channels twice

A payload is given a tag when it is accepted.  The tag is passed on from the receiving
task to a channel, or to a row of the table and from there to a channel; `Relay.Unique`
says that it is in one of these places only, except between the steps in which a row is
sent and deleted.  A connection that loads its queue while another one of the same user
has not deleted all it has loaded breaks this, and both send the rows they share
(`Relay.not_nodup_puts`).  In a run without such a step no tag is put on channels twice
(`Relay.nodup_puts_of_reaches`).
-/

namespace Phantasma

/-! ### What a connection has to do with messages -/

/-- The tag of the payload that a connection handles, the rows it has loaded and not
deleted, and the one of them that it has sent. -/
structure Work where
  tag : Option ℕ
  rows : List QueuedMessage
  sent : Option QueuedMessage
  sent_mem : ∀ row ∈ sent, row ∈ rows

namespace Work

/-- The work without the payload. -/
def release (w : Work) : Work :=
  { w with tag := none }

/-- The work with a payload of the tag `tag`. -/
def take (w : Work) (tag : ℕ) : Work :=
  { w with tag := some tag }

/-- No payload and no row is in both works. -/
structure Apart (w w' : Work) : Prop where
  tag : ∀ tag ∈ w.tag, tag ∉ w'.tag
  rows : ∀ row ∈ w.rows, row ∉ w'.rows

theorem Apart.symm {w w' : Work} (h : w.Apart w') :
  w'.Apart w
  where
  tag tag hw' hw := h.tag tag hw hw'
  rows row hw' hw := h.rows row hw hw'

/-- A work with no more of the payload and the rows is apart from what the other one is
apart from. -/
theorem Apart.of_le
    {w w' v : Work} (h : w.Apart v) (htag : ∀ tag ∈ w'.tag, tag ∈ w.tag)
    (hrows : w'.rows.Sublist w.rows) :
  w'.Apart v
  where
  tag tag hw' := h.tag tag (htag tag hw')
  rows row hw' := h.rows row (hrows.subset hw')

/-- The payload of the work is new to the channels and the table, and its rows are rows of
the table, none of them twice. -/
structure Fits (table : QueuedMessages) (puts : List ℕ) (nextTag : ℕ) (w : Work) : Prop where
  tag : ∀ tag ∈ w.tag, tag < nextTag ∧ tag ∉ puts
    ∧ ∀ row ∈ table.rows, row.message.tag ≠ tag
  rows : ∀ row ∈ w.rows, row ∈ table.rows
  nodup : w.rows.Nodup

theorem Fits.of_le
    {table : QueuedMessages} {puts : List ℕ} {nextTag : ℕ} {w w' : Work}
    (h : w.Fits table puts nextTag) (htag : ∀ tag ∈ w'.tag, tag ∈ w.tag)
    (hrows : w'.rows.Sublist w.rows) :
  w'.Fits table puts nextTag
  where
  tag tag hw' := h.tag tag (htag tag hw')
  rows row hw' := h.rows row (hrows.subset hw')
  nodup := hrows.nodup h.nodup

end Work

/-! ### Works by position -/

section Positions

variable {works : List Work} {c : ℕ} {w w' : Work}

theorem getElem?_set_work (hc : works[c]? = some w) (w' : Work) (d : ℕ) :
  (works.set c w')[d]? = if c = d then some w' else works[d]?
  := by
  have hlt : c < works.length := (List.getElem?_eq_some_iff.mp hc).1
  simp [List.getElem?_set, hlt]

theorem forall_set_work
    {P : Work → Prop} (hc : works[c]? = some w)
    (hP : ∀ (d : ℕ) (v : Work), works[d]? = some v → P v) (hw' : P w') :
  ∀ (d : ℕ) (v : Work), (works.set c w')[d]? = some v → P v
  := by
  intro d v hd
  rw [getElem?_set_work hc] at hd
  split at hd
  · obtain rfl := Option.some.inj hd
    apply hw'
  · apply hP d v hd

theorem apart_set_work
    (hc : works[c]? = some w)
    (h : ∀ (d e : ℕ) (v v' : Work), d ≠ e → works[d]? = some v → works[e]? = some v' →
      v.Apart v')
    (hw' : ∀ (d : ℕ) (v : Work), c ≠ d → works[d]? = some v → w'.Apart v) :
  ∀ (d e : ℕ) (v v' : Work), d ≠ e → (works.set c w')[d]? = some v →
    (works.set c w')[e]? = some v' → v.Apart v'
  := by
  intro d e v v' hne hd he
  rw [getElem?_set_work hc] at hd he
  split at hd <;> split at he
  · omega
  · obtain rfl := Option.some.inj hd
    subst d
    apply hw' e v' hne he
  · obtain rfl := Option.some.inj he
    subst e
    apply (hw' d v hne.symm hd).symm
  · apply h d e v v' hne hd he

/-- A row that some connection has sent is still sent by one, when the connection that was
replaced has not dropped it. -/
theorem exists_sent_set_work
    (hc : works[c]? = some w) {row : QueuedMessage} (hw : w.sent = some row → w'.sent = some row)
    (h : ∃ (d : ℕ) (v : Work), works[d]? = some v ∧ v.sent = some row) :
  ∃ (d : ℕ) (v : Work), (works.set c w')[d]? = some v ∧ v.sent = some row
  := by
  obtain ⟨d, v, hd, hv⟩ := h
  by_cases hcd : c = d
  · subst d
    obtain rfl := Option.some.inj (hc.symm.trans hd)
    use c, w'
    simp [getElem?_set_work hc, hw hv]
  · use d, v
    simp [getElem?_set_work hc, hcd, hd, hv]

end Positions

namespace Relay

/-! ### The invariant -/

/-- Every tag is in one place: among those put on channels, in a row of the table, or with
the payload that one connection handles.  Every loaded row is with one connection, and a
row whose tag was put on a channel is being deleted. -/
structure Unique (table : QueuedMessages) (puts : List ℕ) (nextTag : ℕ) (works : List Work) :
    Prop where
  puts_nodup : puts.Nodup
  puts_lt : ∀ tag ∈ puts, tag < nextTag
  table_nodup : (table.rows.map (·.message.tag)).Nodup
  table_lt : ∀ row ∈ table.rows, row.message.tag < nextTag
  fits : ∀ (c : ℕ) (w : Work), works[c]? = some w → w.Fits table puts nextTag
  apart : ∀ (c d : ℕ) (w w' : Work), c ≠ d → works[c]? = some w → works[d]? = some w' →
    w.Apart w'
  sent : ∀ row ∈ table.rows, row.message.tag ∈ puts →
    ∃ (c : ℕ) (w : Work), works[c]? = some w ∧ w.sent = some row

/-- The tag is below the next one and in no place. -/
structure Free (table : QueuedMessages) (puts : List ℕ) (nextTag : ℕ) (works : List Work)
    (tag : ℕ) : Prop where
  lt : tag < nextTag
  puts : tag ∉ puts
  table : ∀ row ∈ table.rows, row.message.tag ≠ tag
  works : ∀ (c : ℕ) (w : Work), works[c]? = some w → tag ∉ w.tag

section Unique

variable {table : QueuedMessages} {puts : List ℕ} {nextTag : ℕ} {works : List Work}
variable {c : ℕ} {w w' : Work} {tag : ℕ}

/-- Two rows of the table with the same tag are the same row. -/
theorem Unique.row_eq
    (h : Unique table puts nextTag works) {row row' : QueuedMessage}
    (hrow : row ∈ table.rows) (hrow' : row' ∈ table.rows)
    (htag : row.message.tag = row'.message.tag) :
  row = row'
  := List.inj_on_of_nodup_map h.table_nodup hrow hrow' htag

/-- A connection may forget its payload, and rows that it does not delete. -/
theorem Unique.set_of_le
    (h : Unique table puts nextTag works) (hc : works[c]? = some w)
    (htag : ∀ tag ∈ w'.tag, tag ∈ w.tag) (hrows : w'.rows.Sublist w.rows)
    (hsent : ∀ row ∈ w.sent, row ∈ w'.sent) :
  Unique table puts nextTag (works.set c w')
  where
  puts_nodup := h.puts_nodup
  puts_lt := h.puts_lt
  table_nodup := h.table_nodup
  table_lt := h.table_lt
  fits := forall_set_work hc h.fits ((h.fits c w hc).of_le htag hrows)
  apart := by
    apply apart_set_work hc h.apart
    intro d v hne hd
    apply (h.apart c d w v hne hc hd).of_le htag hrows
  sent := by
    intro row hrow hputs
    apply exists_sent_set_work hc (hsent row) (h.sent row hrow hputs)

/-- The tag of a payload is free when the connection has let go of it. -/
theorem Unique.release
    (h : Unique table puts nextTag works) (hc : works[c]? = some w) (htag : w.tag = some tag) :
  Unique table puts nextTag (works.set c w.release)
    ∧ Free table puts nextTag (works.set c w.release) tag
  := by
  constructor
  · apply h.set_of_le hc <;> simp [Work.release]
  · obtain ⟨hlt, hputs, htable⟩ := (h.fits c w hc).tag tag htag
    constructor
    · apply hlt
    · apply hputs
    · apply htable
    · intro d v hd
      rw [getElem?_set_work hc] at hd
      split at hd
      · obtain rfl := Option.some.inj hd
        simp [Work.release]
      · rename_i hne
        apply (h.apart c d w v hne hc hd).tag tag htag

/-- A tag that no payload was given is free. -/
theorem Unique.fresh (h : Unique table puts nextTag works) :
  Unique table puts (nextTag + 1) works ∧ Free table puts (nextTag + 1) works nextTag
  := by
  constructor
  · constructor
    · apply h.puts_nodup
    · intro tag htag
      have := h.puts_lt tag htag
      omega
    · apply h.table_nodup
    · intro row hrow
      have := h.table_lt row hrow
      omega
    · intro c w hc
      obtain ⟨htag, hrows, hnodup⟩ := h.fits c w hc
      apply Work.Fits.mk _ hrows hnodup
      intro tag hw
      obtain ⟨hlt, hnew⟩ := htag tag hw
      use Nat.lt_succ_of_lt hlt
    · apply h.apart
    · apply h.sent
  · constructor
    · omega
    · intro hputs
      have := h.puts_lt _ hputs
      omega
    · intro row hrow
      have := h.table_lt row hrow
      omega
    · intro c w hc hw
      have := ((h.fits c w hc).tag _ hw).1
      omega

/-- A connection may take a payload with a free tag. -/
theorem Unique.take
    (h : Unique table puts nextTag works) (hc : works[c]? = some w)
    (hfree : Free table puts nextTag works tag) :
  Unique table puts nextTag (works.set c (w.take tag))
  where
  puts_nodup := h.puts_nodup
  puts_lt := h.puts_lt
  table_nodup := h.table_nodup
  table_lt := h.table_lt
  fits := by
    apply forall_set_work hc h.fits
    constructor
    · simp [Work.take, hfree.lt, hfree.puts]
      apply hfree.table
    · apply (h.fits c w hc).rows
    · apply (h.fits c w hc).nodup
  apart := by
    apply apart_set_work hc h.apart
    intro d v hne hd
    constructor
    · simp [Work.take]
      apply hfree.works d v hd
    · apply (h.apart c d w v hne hc hd).rows
  sent := by
    intro row hrow hputs
    apply exists_sent_set_work hc _ (h.sent row hrow hputs)
    apply id

/-- A free tag may be put on a channel. -/
theorem Unique.put
    (h : Unique table puts nextTag works) (hfree : Free table puts nextTag works tag) :
  Unique table (puts ++ [tag]) nextTag works
  where
  puts_nodup := by
    apply List.nodup_append.mpr
    simp [h.puts_nodup]
    rintro _ hputs rfl
    apply hfree.puts hputs
  puts_lt := by
    simp only [List.mem_append, List.mem_singleton]
    rintro _ (hputs | rfl)
    · apply h.puts_lt _ hputs
    · apply hfree.lt
  table_nodup := h.table_nodup
  table_lt := h.table_lt
  fits := by
    intro c w hc
    obtain ⟨htag, hrows, hnodup⟩ := h.fits c w hc
    apply Work.Fits.mk _ hrows hnodup
    intro tag' hw
    obtain ⟨hlt, hputs, htable⟩ := htag tag' hw
    use hlt
    constructor
    · simp only [List.mem_append, List.mem_singleton, not_or]
      use hputs
      rintro rfl
      apply hfree.works c w hc hw
    · apply htable
  apart := h.apart
  sent := by
    intro row hrow hputs
    rcases List.mem_append.mp hputs with hold | hnew
    · apply h.sent row hrow hold
    · apply absurd (List.mem_singleton.mp hnew) (hfree.table row hrow)

/-- A message with a free tag may be queued. -/
theorem Unique.queueMessage
    {message : Message} (h : Unique table puts nextTag works)
    (hfree : Free table puts nextTag works message.tag) (recipient : String) :
  Unique (table.queueMessage recipient message) puts nextTag works
  where
  puts_nodup := h.puts_nodup
  puts_lt := h.puts_lt
  table_nodup := by
    simp only [QueuedMessages.queueMessage, List.map_append, List.map_cons, List.map_nil]
    apply List.nodup_append.mpr
    simp [h.table_nodup]
    apply hfree.table
  table_lt := by
    intro row hrow
    rcases (QueuedMessages.mem_queueMessage ..).mp hrow with hold | rfl
    · apply h.table_lt row hold
    · apply hfree.lt
  fits := by
    intro c w hc
    obtain ⟨htag, hrows, hnodup⟩ := h.fits c w hc
    apply Work.Fits.mk _ _ hnodup
    · intro tag hw
      obtain ⟨hlt, hputs, htable⟩ := htag tag hw
      use hlt, hputs
      intro row hrow
      rcases (QueuedMessages.mem_queueMessage ..).mp hrow with hold | rfl
      · apply htable row hold
      · rintro rfl
        apply hfree.works c w hc hw
    · intro row hrow
      apply (QueuedMessages.mem_queueMessage ..).mpr (Or.inl (hrows row hrow))
  apart := h.apart
  sent := by
    intro row hrow hputs
    rcases (QueuedMessages.mem_queueMessage ..).mp hrow with hold | rfl
    · apply h.sent row hold hputs
    · apply absurd hputs hfree.puts

/-- A connection without rows may load rows of the table that no other one has loaded. -/
theorem Unique.load
    (h : Unique table puts nextTag works) (hc : works[c]? = some w) (hw : w.rows = [])
    (htag : w'.tag = w.tag) (hrows : ∀ row ∈ w'.rows, row ∈ table.rows)
    (hnodup : w'.rows.Nodup)
    (hothers : ∀ (d : ℕ) (v : Work), c ≠ d → works[d]? = some v →
      ∀ row ∈ w'.rows, row ∉ v.rows) :
  Unique table puts nextTag (works.set c w')
  where
  puts_nodup := h.puts_nodup
  puts_lt := h.puts_lt
  table_nodup := h.table_nodup
  table_lt := h.table_lt
  fits := by
    apply forall_set_work hc h.fits
    constructor
    · rw [htag]
      apply (h.fits c w hc).tag
    · apply hrows
    · apply hnodup
  apart := by
    apply apart_set_work hc h.apart
    intro d v hne hd
    constructor
    · rw [htag]
      apply (h.apart c d w v hne hc hd).tag
    · apply hothers d v hne hd
  sent := by
    intro row hrow hputs
    apply exists_sent_set_work hc _ (h.sent row hrow hputs)
    intro hsent
    have := w.sent_mem row hsent
    simp [hw] at this

/-- A connection may send a row it has loaded, when it is not deleting another one. -/
theorem Unique.send
    {row : QueuedMessage} (h : Unique table puts nextTag works) (hc : works[c]? = some w)
    (hrow : row ∈ w.rows) (hw : w.sent = none) (htag : w'.tag = w.tag)
    (hrows : w'.rows = w.rows) (hsent : w'.sent = some row) :
  Unique table (puts ++ [row.message.tag]) nextTag (works.set c w')
  := by
  have hmem := (h.fits c w hc).rows row hrow
  have hnew : row.message.tag ∉ puts := by
    intro hputs
    obtain ⟨d, v, hd, hv⟩ := h.sent row hmem hputs
    by_cases hcd : c = d
    · subst d
      obtain rfl := Option.some.inj (hc.symm.trans hd)
      simp [hw] at hv
    · apply (h.apart c d w v hcd hc hd).rows row hrow (v.sent_mem row hv)
  have hset : Unique table puts nextTag (works.set c w') := by
    apply h.set_of_le hc
    · simp [htag]
    · rw [hrows]
    · simp [hw]
  constructor
  · apply List.nodup_append.mpr
    simp [h.puts_nodup]
    rintro _ hputs rfl
    apply hnew hputs
  · simp only [List.mem_append, List.mem_singleton]
    rintro _ (hputs | rfl)
    · apply h.puts_lt _ hputs
    · apply h.table_lt row hmem
  · apply h.table_nodup
  · apply h.table_lt
  · intro d v hd
    obtain ⟨htag, hrows, hnodup⟩ := hset.fits d v hd
    apply Work.Fits.mk _ hrows hnodup
    intro tag hv
    obtain ⟨hlt, hputs, htable⟩ := htag tag hv
    use hlt
    constructor
    · simp only [List.mem_append, List.mem_singleton, not_or]
      use hputs, (htable row hmem).symm
    · apply htable
  · apply hset.apart
  · intro row' hrow' hputs
    rcases List.mem_append.mp hputs with hold | hlast
    · apply hset.sent row' hrow' hold
    · obtain rfl := h.row_eq hrow' hmem (List.mem_singleton.mp hlast)
      use c, w'
      simp [getElem?_set_work hc, hsent]

/-- A connection may delete the row it has sent. -/
theorem Unique.deleteQueuedMessage
    {row : QueuedMessage} {rest : List QueuedMessage} (h : Unique table puts nextTag works)
    (hc : works[c]? = some w) (hrows : w.rows = row :: rest) (hsent : w.sent = some row)
    (htag : w'.tag = w.tag) (hrest : w'.rows = rest) :
  Unique (table.deleteQueuedMessage row.id) puts nextTag (works.set c w')
  := by
  have hmem := (h.fits c w hc).rows row (by simp [hrows])
  have hkept : ∀ row' ∈ table.rows, row' ≠ row →
      row' ∈ (table.deleteQueuedMessage row.id).rows := by
    intro row' hrow' hne
    apply (QueuedMessages.mem_deleteQueuedMessage ..).mpr
    use hrow'
    intro hid
    apply hne (table.eq_of_id_eq hrow' hmem hid)
  have hold : ∀ row' ∈ (table.deleteQueuedMessage row.id).rows,
      row' ∈ table.rows ∧ row' ≠ row := by
    intro row' hrow'
    obtain ⟨hmem', hid⟩ := (QueuedMessages.mem_deleteQueuedMessage ..).mp hrow'
    use hmem'
    rintro rfl
    apply hid rfl
  have hfits : ∀ (d : ℕ) (v v' : Work), works[d]? = some v → (∀ tag ∈ v'.tag, tag ∈ v.tag) →
      v'.rows.Sublist v.rows → row ∉ v'.rows →
      v'.Fits (table.deleteQueuedMessage row.id) puts nextTag := by
    intro d v v' hd htag hsub hrow
    obtain ⟨htag', hrows', hnodup⟩ := (h.fits d v hd).of_le htag hsub
    constructor
    · intro tag hv
      obtain ⟨hlt, hputs, htable⟩ := htag' tag hv
      use hlt, hputs
      intro row' hrow'
      apply htable row' (hold row' hrow').1
    · intro row' hrow'
      apply hkept row' (hrows' row' hrow')
      rintro rfl
      apply hrow hrow'
    · apply hnodup
  have hnotMem : row ∉ rest := by
    have := (h.fits c w hc).nodup
    rw [hrows] at this
    apply (List.nodup_cons.mp this).1
  constructor
  · apply h.puts_nodup
  · apply h.puts_lt
  · apply List.Nodup.sublist _ h.table_nodup
    apply List.Sublist.map
    apply List.filter_sublist
  · intro row' hrow'
    apply h.table_lt row' (hold row' hrow').1
  · intro d v hd
    rw [getElem?_set_work hc] at hd
    split at hd
    · obtain rfl := Option.some.inj hd
      apply hfits c w w' hc <;> simp [htag, hrest, hrows, hnotMem]
    · rename_i hne
      apply hfits d v v hd (by simp) (List.Sublist.refl _)
      apply (h.apart c d w v hne hc hd).rows
      simp [hrows]
  · apply apart_set_work hc h.apart
    intro d v hne hd
    apply (h.apart c d w v hne hc hd).of_le <;> simp [htag, hrest, hrows]
  · intro row' hrow' hputs
    obtain ⟨hmem', hne⟩ := hold row' hrow'
    apply exists_sent_set_work hc _ (h.sent row' hmem' hputs)
    intro hsent'
    apply absurd (Option.some.inj (hsent'.symm.trans hsent)) hne

/-- A connection that has just been opened handles and has loaded nothing. -/
theorem Unique.append
    (h : Unique table puts nextTag works) (htag : w.tag = none) (hrows : w.rows = []) :
  Unique table puts nextTag (works ++ [w])
  := by
  have hsplit : ∀ (d : ℕ) (v : Work), (works ++ [w])[d]? = some v →
      works[d]? = some v ∨ d = works.length ∧ v = w := by
    intro d v hd
    rw [List.getElem?_append, List.getElem?_singleton] at hd
    split at hd
    · left
      apply hd
    · right
      obtain ⟨hzero, ⟨⟩⟩ := Option.ite_none_right_eq_some.mp hd
      constructor
      · omega
      · rfl
  have hapart : ∀ v : Work, w.Apart v := by
    intro v
    constructor <;> simp [htag, hrows]
  constructor
  · apply h.puts_nodup
  · apply h.puts_lt
  · apply h.table_nodup
  · apply h.table_lt
  · intro d v hd
    rcases hsplit d v hd with hold | ⟨-, rfl⟩
    · apply h.fits d v hold
    · constructor <;> simp [htag, hrows]
  · intro d e v v' hne hd he
    rcases hsplit d v hd with hold | ⟨rfl, rfl⟩
    · rcases hsplit e v' he with hold' | ⟨-, rfl⟩
      · apply h.apart d e v v' hne hold hold'
      · apply (hapart v).symm
    · apply hapart
  · intro row hrow hputs
    obtain ⟨d, v, hd, hv⟩ := h.sent row hrow hputs
    use d, v
    rw [List.getElem?_append_left (List.getElem?_eq_some_iff.mp hd).1]
    use hd, hv

end Unique

end Relay

/-! ### The steps of the relay -/

/-- The row that is sent and not deleted. -/
def Phase.sent : Phase → Option QueuedMessage
  | .deleting row _ => some row
  | _ => none

/-- The work of a connection. -/
def Connection.work (conn : Connection) : Work where
  tag := conn.receiveTask.handled.map fun handled => handled.2.tag
  rows := conn.phase.rows
  sent := conn.phase.sent
  sent_mem := by
    cases hphase : conn.phase <;> simp [Phase.sent, Phase.rows]

/-- A step of a connection in which no deletion fails leaves the connection with no more
work, and with the row it has sent. -/
theorem Connection.Step.work
    {conn conn' : Connection} {a : TaskAction} (hstep : conn.Step a conn')
    (hdb : a ≠ .failDelete) :
  (∀ tag ∈ conn'.work.tag, tag ∈ conn.work.tag) ∧ conn'.work.rows.Sublist conn.work.rows
    ∧ ∀ row ∈ conn.work.sent, row ∈ conn'.work.sent
  := by
  cases hstep with
  | failDelete => apply absurd rfl hdb
  | _ => and_intros <;> simp [Connection.work, endSend, ReceiveTask.handled, Phase.rows,
      Phase.sent, *]

namespace Relay

variable {serde : JsonCodec} {s s' s₀ : Relay} {a : Action}

/-- The works of the connections. -/
def works (s : Relay) : List Work :=
  s.connections.map Connection.work

theorem getElem?_works
    {c : ℕ} {conn : Connection} (hc : s.connections[c]? = some conn) :
  s.works[c]? = some conn.work
  := by
  simp [works, hc]

theorem works_setConnection (c : ℕ) (conn : Connection) :
  (s.setConnection c conn).works = s.works.set c conn.work
  := List.map_set

theorem works_push (c : ℕ) (message : Message) :
  (s.push c message).works = s.works
  := map_push Connection.work (fun _ _ => rfl) s c message

/-- The tags that were put on channels. -/
def putTags (s : Relay) : List ℕ :=
  s.puts.map fun put => put.2.tag

/-- Every tag is in one place. -/
def SentOnce (s : Relay) : Prop :=
  Unique s.queuedMessages s.putTags s.nextTag s.works

theorem Initial.sentOnce (h : s.Initial) :
  s.SentOnce
  := by
  constructor
  case table_nodup => apply h.tags
  case table_lt => apply h.tags_lt
  all_goals simp [putTags, works, h.puts, h.connections]

/-- The action does not load the queue of a user while another connection of that user has
loaded rows that it has not deleted. -/
def LoadsAlone (s : Relay) : Action → Prop
  | .loadQueue c =>
      ∀ conn ∈ s.connections[c]?, ∀ other ∈ s.connections, other.username = conn.username →
        other.phase.rows = []
  | _ => True

instance (s : Relay) : DecidablePred s.LoadsAlone
  | .loadQueue c => by
      unfold LoadsAlone
      infer_instance
  | .connect _ | .task _ _ | .register _ | .sendQueued _ | .deleteQueued _ | .receive _ _
  | .lookUp _ | .forward _ | .enqueue _ | .cleanUp _ => .isTrue trivial

/-- A connection that loads its queue alone loads rows that no other one has loaded. -/
theorem sentOnce_loadQueue
    (hs : s.Wellformed) (hsent : s.SentOnce) {c : ℕ} {conn : Connection}
    (hc : s.connections[c]? = some conn) (hphase : conn.phase = .registered)
    (hguard : s.LoadsAlone (.loadQueue c)) :
  SentOnce (s.setConnection c
    { conn with phase := .draining (s.queuedMessages.queuedMessagesFor conn.username) })
  := by
  unfold SentOnce
  rw [works_setConnection]
  apply hsent.load (getElem?_works hc)
  · simp [Connection.work, hphase, Phase.rows]
  · rfl
  · intro row hrow
    apply ((QueuedMessages.mem_queuedMessagesFor ..).mp hrow).1
  · apply List.Nodup.filter
    apply List.Nodup.of_map _ hsent.table_nodup
  · intro d v hne hd row hrow hrow'
    rw [works, List.getElem?_map] at hd
    obtain ⟨other, hother, rfl⟩ := Option.map_eq_some_iff.mp hd
    have hrecipient := ((QueuedMessages.mem_queuedMessagesFor ..).mp hrow).2
    have huser := ((hs.fits d other hother).loaded row hrow').1
    have hrows := hguard conn hc other (List.mem_of_getElem? hother)
      (huser.symm.trans hrecipient)
    simp [Connection.work, hrows] at hrow'

/-- A step that changes one connection, and gives it no more work, keeps every tag in one
place. -/
theorem sentOnce_of_le
    (hsent : s.SentOnce) {c : ℕ} {conn conn' : Connection}
    (hc : s.connections[c]? = some conn)
    (htable : s'.queuedMessages = s.queuedMessages) (hputs : s'.puts = s.puts)
    (hnext : s'.nextTag = s.nextTag)
    (hconnections : s'.connections = (s.setConnection c conn').connections)
    (hle : (∀ tag ∈ conn'.work.tag, tag ∈ conn.work.tag)
      ∧ conn'.work.rows.Sublist conn.work.rows ∧ ∀ row ∈ conn.work.sent, row ∈ conn'.work.sent) :
  s'.SentOnce
  := by
  have hworks : s'.works = s.works.set c conn'.work := by
    rw [← works_setConnection, works, works, hconnections]
  rw [SentOnce, putTags, htable, hputs, hnext, hworks]
  apply hsent.set_of_le (getElem?_works hc) hle.1 hle.2.1 hle.2.2

/-- A step that loads alone, and in which the database does not fail, keeps every tag in
one place. -/
theorem Step.sentOnce
    (h : Step serde s a s') (hs : s.Wellformed) (hdb : dbSucceeds a)
    (hguard : s.LoadsAlone a) (hsent : s.SentOnce) :
  s'.SentOnce
  := by
  cases h with
  | connect =>
      simp only [SentOnce, works, Relay.connect, List.map_append, List.map_singleton]
      apply hsent.append rfl rfl
  | task hc hstep =>
      refine sentOnce_of_le hsent hc rfl rfl rfl rfl (hstep.work ?_)
      rintro rfl
      cases hdb
  | refuse => apply hsent
  | loadQueue hc hphase => apply sentOnce_loadQueue hs hsent hc hphase hguard
  | register hc hphase | cleanUp hc hphase =>
      refine sentOnce_of_le hsent hc rfl rfl rfl rfl ?_
      simp [Connection.work, hphase, Phase.rows, Phase.sent]
  | breakQueued hc hphase hclosed =>
      apply absurd ((hs.fits _ _ hc).isOpen _) hclosed
      simp [hphase, Phase.hasSpawned]
  | lookUp hc hreceive | fallBack hc hreceive =>
      refine sentOnce_of_le hsent hc rfl rfl rfl rfl ?_
      simp [Connection.work, hreceive, ReceiveTask.handled]
  | @accept c conn bytes recipient payload hc hreceive =>
      obtain ⟨hfresh, hfree⟩ := hsent.fresh
      have hworks : (s.accept c conn bytes recipient payload).works
          = s.works.set c (conn.work.take s.nextTag) := works_setConnection _ _
      rw [SentOnce, hworks]
      apply hfresh.take (getElem?_works hc) hfree
  | @forward c conn recipient message client hc hreceive =>
      have htag : conn.work.tag = some message.tag := by
        simp [Connection.work, hreceive, ReceiveTask.handled]
      obtain ⟨hrelease, hfree⟩ := hsent.release (getElem?_works hc) htag
      rw [SentOnce, works_push, works_setConnection, putTags, push, List.map_append]
      apply hrelease.put hfree
  | @enqueue c conn recipient message hc hreceive =>
      have htag : conn.work.tag = some message.tag := by
        simp [Connection.work, hreceive, ReceiveTask.handled]
      obtain ⟨hrelease, hfree⟩ := hsent.release (getElem?_works hc) htag
      have hworks : (s.enqueue c conn recipient message).works
          = s.works.set c conn.work.release := works_setConnection _ _
      rw [SentOnce, hworks]
      apply hrelease.queueMessage hfree
  | sendQueued hc hphase =>
      rw [SentOnce, works_push, works_setConnection, putTags, push, List.map_append]
      apply hsent.send (getElem?_works hc) <;>
        simp [Connection.work, hphase, Phase.rows, Phase.sent]
  | @deleteQueued c conn row rest hc hphase =>
      have hworks : (s.deleteQueued c conn row rest).works
          = s.works.set c (Connection.work { conn with phase := .draining rest }) :=
        works_setConnection _ _
      have hrows : conn.work.rows = row :: rest := by simp [Connection.work, hphase, Phase.rows]
      have hlast : conn.work.sent = some row := by simp [Connection.work, hphase, Phase.sent]
      rw [SentOnce, hworks]
      apply hsent.deleteQueuedMessage (getElem?_works hc) hrows hlast
      all_goals rfl

/-- In a run in which every database call succeeds, and no queue is loaded while another
connection of the same user has rows that it has not deleted, no message is put on
channels twice; and so none is written twice (`SentOnce.eq_of_written`), since what a connection
writes was put on its channel (`putsInOrder_of_reaches`). -/
theorem nodup_puts_of_reaches
    (h₀ : s₀.Initial)
    (h : TransitionSystem.Reaches (step serde)
      (fun s a => dbSucceeds a ∧ s.LoadsAlone a) s₀ s) :
  (s.puts.map fun put => put.2.tag).Nodup
  := by
  have hsent : s.SentOnce := by
    apply invariant_of_reaches (I := SentOnce) _ h h₀.wellformed h₀.sentOnce
    rintro t a t' ⟨hdb, hguard⟩ hstep ht hsent
    apply hstep.sentOnce ht hdb hguard hsent
  apply hsent.puts_nodup

/-- A queued message is put on the channel of the only connection of its recipient. -/
theorem nodup_puts_of_reaches_sample :
  ∃ s, after (queueSample ++ drainSample) = some s
    ∧ (s.puts.map fun put => put.2.tag).Nodup
  := by
  let guard (s : Relay) (a : Action) : Prop := dbSucceeds a ∧ s.LoadsAlone a
  let actions := queueSample ++ drainSample
  have hrun : (TransitionSystem.run (TransitionSystem.guarded (step sampleCodec) guard) start
      actions).isSome := by
    decide +kernel
  obtain ⟨s, hs⟩ := Option.isSome_iff_exists.mp hrun
  use s, TransitionSystem.run_of_run_guarded hs
  apply nodup_puts_of_reaches initial_start (TransitionSystem.reaches_of_run_guarded hs)

/-- Two connections of one recipient load the queued message before either deletes it, and
both put it on their channel. -/
theorem not_nodup_puts :
  ¬ ∀ s : Relay,
    TransitionSystem.Reaches (step sampleCodec) (fun _ a => dbSucceeds a) start s →
    (s.puts.map fun put => put.2.tag).Nodup
  := by
  intro hnodup
  let actions := queueSample ++ [.connect "bob", .connect "bob", .register 1, .register 2,
    .loadQueue 1, .loadQueue 2, .sendQueued 1, .deleteQueued 1, .sendQueued 2]
  have hrun : (after actions).isSome := by
    decide +kernel
  have htwice : ∀ t ∈ after actions, ¬ (t.puts.map fun put => put.2.tag).Nodup := by
    decide +kernel
  obtain ⟨s, hs⟩ := Option.isSome_iff_exists.mp hrun
  apply htwice s hs
  apply hnodup
  apply TransitionSystem.reaches_of_run _ hs
  simp [actions, queueSample, comeOnline, dbSucceeds]

end Relay

end Phantasma
