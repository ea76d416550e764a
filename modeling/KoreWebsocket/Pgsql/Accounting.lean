import KoreWebsocket.Pgsql.Pool

/-!
# The connection counts of the pool

`conn_count` of a database should be the number of its live connections. Only two functions change
the one or the other: `pgsql_conn_create` adds to both, and `pgsql_conn_cleanup` frees a connection
but takes it off the count of a database with *another* name. So the counts are right along every
run in which no connection is cleaned up (`counts_exact_without_cleanup`), and wrong after the first
cleanup (`failed_connect_miscounts`).
-/

namespace KoreWebsocket.Pgsql.Pool

open Machine

/-- The counts are exact and respect the limits. -/
def Accounted (st : St) : Prop :=
  ∀ d ∈ st.dbs, d.connCount = st.liveCount d.name ∧ (d.connMax ≠ 0 → d.connCount ≤ d.connMax)

/-- The pass of `pgsql_conn_next` on top of the stack finds no free connection and its database is
not at its limit, so it creates one. -/
def Creates (st : St) (db : String) : Prop :=
  (∃ p rest, st.stack = .next p db :: rest) ∧
    st.free.find? (fun c => (st.conns c).any (·.name == db)) = none ∧
    ∃ d, st.dbs.find? (·.name == db) = some d ∧ ¬ (d.connMax ≠ 0 ∧ d.connCount ≥ d.connMax)

/-- The event runs `pgsql_conn_cleanup`: an attempt to connect fails, a socket has an error, or a
connection is destroyed because its `ROLLBACK` failed. -/
def RunsCleanup (st : St) : Ev → Prop
  | .scan o => o.connectOk = false ∧ ∃ db, Creates st db
  | .error _ => True
  | .ret => ∃ c rest, st.stack = .rolled c true :: rest
  | _ => False

/-- The event creates a connection when `conn_count` has no room for it. -/
def Overflows (w : Nat) (st : St) : Ev → Prop
  | .scan _ => ∃ db, Creates st db ∧ 2 ^ w ≤ st.liveCount db + 1
  | _ => False

/-! ## The steps that create and free nothing -/

/-- Nothing that the counts depend on has changed. -/
structure SameCounts (st st' : St) : Prop where
  dbs : st'.dbs = st.dbs
  fresh : st'.fresh = st.fresh
  names : ∀ c, (st'.conns c).map Conn.name = (st.conns c).map Conn.name

namespace SameCounts

variable {st st' st'' : St}

theorem refl (st : St) : SameCounts st st := ⟨rfl, rfl, fun _ => rfl⟩

theorem trans (h : SameCounts st st') (h' : SameCounts st' st'') : SameCounts st st'' :=
  ⟨h'.dbs.trans h.dbs, h'.fresh.trans h.fresh, fun c => (h'.names c).trans (h.names c)⟩

/-- A step that touches neither the databases nor the connections. -/
theorem of_eq (hd : st'.dbs = st.dbs) (hf : st'.fresh = st.fresh) (hc : st'.conns = st.conns) :
    SameCounts st st' :=
  ⟨hd, hf, fun c => by rw [hc]⟩

/-- A connection keeps its name when its flags, its job or its socket change. -/
theorem setConn (c : Nat) {f : Conn → Conn} (hf : ∀ k, (f k).name = k.name) :
    SameCounts st (st.setConn c ((st.conns c).map f)) := by
  refine ⟨rfl, rfl, fun c' => ?_⟩
  by_cases h : c' = c
  · subst h
    rw [St.setConn_conns_self, Option.map_map]
    exact Option.map_congr fun k _ => hf k
  · rw [St.setConn_conns_of_ne st _ h]

/-- The stack does not matter to the counts. -/
theorem of_stack (fs : List Frame) (h : SameCounts { st with stack := fs } st') :
    SameCounts st st' :=
  ⟨h.dbs, h.fresh, h.names⟩

/-- A `kore_pgsql` does not count. -/
theorem setPg (p : Nat) (v : Pg) : SameCounts st (st.setPg p v) := of_eq rfl rfl rfl

/-- A callback that is called changes no count. -/
theorem callCb (p : Nat) : SameCounts st (st.callCb p) := by
  rw [St.callCb_eq]
  exact of_eq rfl rfl rfl

/-- Who leaves the queue changes no count. -/
theorem queueRemove (p : Nat) : SameCounts st (st.queueRemove p) := by
  rw [St.queueRemove]
  split
  · exact of_eq rfl rfl rfl
  · exact refl st

/-- Who is woken changes no count. -/
theorem queueWakeup : SameCounts st st.queueWakeup := by
  obtain ⟨q, n, fs, h, -⟩ := st.queueWakeup_eq
  rw [h]
  exact of_eq rfl rfl rfl

/-- A connection that is released is still one. -/
theorem connRelease (p : Nat) : SameCounts st (st.connRelease p) := by
  cases h : (st.pgs p).conn with
  | none => rw [St.connRelease, h]; exact refl st
  | some c =>
      rw [St.connRelease_some st h]
      exact SameCounts.trans (setConn c (f := fun k =>
        { k with job := none, free := true
                 watched := k.watched && !((st.pgs p).async && (st.pgs p).scheduled) })
        fun _ => rfl) (of_eq rfl rfl rfl)

/-- A connection that is taken is still a connection. -/
theorem storeConn (st : St) (p c : Nat) : SameCounts st (st.storeConn p c) :=
  (setConn c (f := fun k => { k with free := false,
                                     job := if (st.pgs p).async then some p else k.job })
    fun _ => rfl).trans (of_eq rfl rfl rfl)

/-- The live connections of a name are the same. -/
theorem liveCount (h : SameCounts st st') (name : String) :
    st'.liveCount name = st.liveCount name := by
  rw [St.liveCount, St.liveCount, h.fresh]
  congr 1
  refine Finset.filter_congr fun c _ => ?_
  have := h.names c
  cases h1 : st.conns c <;> cases h2 : st'.conns c <;> simp_all

/-- The counts are right if they and the connections stay. -/
theorem accounted (h : SameCounts st st') (ha : Accounted st) : Accounted st' := by
  intro d hd
  rw [h.dbs] at hd
  rw [h.liveCount]
  exact ha d hd

end SameCounts

section
variable {w : Nat} {st st' : St}

/-- `kore_pgsql_setup` up to `pgsql_conn_next`. -/
theorem sameCounts_setup (p : Nat) (db : String) (async sync : Bool) :
    SameCounts st (setup st p db async sync) := by
  unfold setup
  dsimp only
  split_ifs <;> exact .of_eq rfl rfl rfl

/-- `kore_pgsql_query` changes no count. -/
theorem sameCounts_query (p : Nat) (ok : Bool) : SameCounts st (query st p ok) := by
  unfold query
  split
  · exact .of_eq rfl rfl rfl
  · next c _ =>
      split_ifs
      · exact .of_eq rfl rfl rfl
      · exact .of_eq rfl rfl rfl
      · exact ((SameCounts.setConn c (f := fun k => { k with watched := true }) fun _ => rfl).trans
          (.setPg p _)).trans (.callCb p)

/-- `kore_pgsql_continue`, in each state. -/
theorem sameCounts_continue {p : Nat} (h : korePgsqlContinue st p = some st') :
    SameCounts st st' := by
  unfold korePgsqlContinue at h
  dsimp only at h
  split at h
  · cases h; exact .setPg p _
  · cases h; exact .setPg p _
  · cases h; exact (SameCounts.setPg p _).trans (.connRelease p)
  iterate 4
    · obtain ⟨q, -, rfl⟩ := Option.map_eq_some_iff.1 h
      exact .of_eq rfl rfl rfl
  · cases h

/-- The code after a frame, unless a `ROLLBACK` has failed. -/
theorem sameCounts_resume {f : Frame} (h : resume w st f = some st')
    (hf : ∀ c, f ≠ .rolled c true) : SameCounts st st' := by
  cases f with
  | user p | handle p => cases h; exact .refl st
  | next p db => cases h
  | rolled c failed =>
      cases failed with
      | true => exact absurd rfl (hf c)
      | false => cases h; exact .refl st
  | releaseTail => cases h; exact .queueWakeup
  | wakeTail t => cases h; exact .of_eq rfl rfl rfl
  | cleanupTail p => cases h; exact .setPg p _

/-- What a pass of `pgsql_conn_next` does to the counts, when a connection that it creates
connects. -/
theorem scan_counts {p : Nat} {db : String} {o : Scan} {rest : List Frame}
    (hs : st.stack = .next p db :: rest)
    (hok : Creates st db → o.connectOk = true)
    (h : scan w { st with stack := rest } p db o = some st') :
    SameCounts st st' ∨ (Creates st db ∧ SameCounts (st.connCreate w db) st') := by
  unfold scan at h
  dsimp only at h
  split at h
  · next c _ =>
      split_ifs at h
      · cases h
        refine .inl (SameCounts.trans ?_ .queueWakeup)
        exact (SameCounts.setConn c (f := fun k => { k with job := none, free := true })
          fun _ => rfl).trans (.of_eq rfl rfl rfl)
      · cases h
        exact .inl (.of_stack rest (.storeConn _ p c))
  · next hfree =>
      split at h
      · cases h
      next d hd =>
        split_ifs at h with hmax hq hconn
        · cases h; exact .inl (.of_eq rfl rfl rfl)
        · cases h; exact .inl (.of_eq rfl rfl rfl)
        · cases h
          refine .inr ⟨⟨⟨p, rest, hs⟩, hfree, d, hd, hmax⟩, ?_⟩
          have hst := SameCounts.storeConn (St.connCreate w { st with stack := rest } db) p
            st.fresh
          exact ⟨hst.dbs, hst.fresh, hst.names⟩
        · exact absurd (hok ⟨⟨p, rest, hs⟩, hfree, d, hd, hmax⟩) hconn

/-- **What a step that cleans no connection up does to the counts**: nothing, or it registers a
database, or it creates a connection. -/
theorem step_counts {e : Ev} (h : step w st e = some st') (hc : ¬ RunsCleanup st e) :
    SameCounts st st' ∨
    (∃ name connMax, (∀ d ∈ st.dbs, d.name ≠ name) ∧
      st' = { st with dbs := { name := name, connMax := connMax } :: st.dbs }) ∨
    (∃ o db, e = .scan o ∧ Creates st db ∧ SameCounts (st.connCreate w db) st') := by
  cases e with
  | register name connMax =>
      simp only [step] at h
      split_ifs at h with hs hany
      · cases h; exact .inl (.refl st)
      · cases h
        refine .inr (.inl ⟨name, connMax, fun d hd he => hany ?_, rfl⟩)
        exact List.any_eq_true.2 ⟨d, hd, by simpa using he⟩
  | deleteRequest p =>
      simp only [step, Option.ite_none_right_eq_some] at h
      cases h.2; exact .inl (.setPg p _)
  | setup p db async sync =>
      simp only [step, Option.ite_none_right_eq_some] at h
      cases h.2; exact .inl (sameCounts_setup p db async sync)
  | scan o =>
      simp only [step] at h
      split at h
      · next p db rest hs =>
          have hok : Creates st db → o.connectOk = true := fun hcr => by
            by_contra hne
            exact hc ⟨by simpa using hne, db, hcr⟩
          rcases scan_counts hs hok h with h1 | ⟨h1, h2⟩
          · exact .inl h1
          · exact .inr (.inr ⟨o, db, rfl, h1, h2⟩)
      · cases h
  | query p ok =>
      simp only [step, Option.ite_none_right_eq_some] at h
      cases h.2; exact .inl (sameCounts_query p ok)
  | «continue» p =>
      simp only [step, Option.ite_none_right_eq_some] at h
      exact .inl (sameCounts_continue h.2)
  | cleanup p =>
      simp only [step, Option.ite_none_right_eq_some] at h
      cases h.2
      exact .inl ((SameCounts.queueRemove p).trans (.of_stack _ (.connRelease p)))
  | ready c =>
      simp only [step, Option.ite_none_right_eq_some] at h
      obtain ⟨k, -, h2⟩ := Option.bind_eq_some_iff.1 h.2
      split_ifs at h2
      obtain ⟨p, -, rfl⟩ := Option.map_eq_some_iff.1 h2
      exact .inl (.of_eq rfl rfl rfl)
  | error c => exact absurd trivial hc
  | report s =>
      simp only [step] at h
      split at h
      · cases h; exact .inl ((SameCounts.setPg _ _).trans (.callCb _))
      · cases h
  | ret =>
      simp only [step] at h
      split at h
      · cases h
      next f rest hs =>
        refine .inl (.of_stack rest (sameCounts_resume h ?_))
        rintro c rfl
        exact hc ⟨c, rest, hs⟩

/-! ## The invariant -/

/-- The counts are exact, the databases have distinct names, every connection carries the name of one
of them, and those that have not been allocated are not there. -/
structure AccInv (st : St) : Prop where
  accounted : Accounted st
  names : (st.dbs.map Db.name).Nodup
  named : ∀ c k, st.conns c = some k → ∃ d ∈ st.dbs, d.name = k.name
  lt : ∀ c k, st.conns c = some k → c < st.fresh

/-- The invariant stays if the counts and the connections do. -/
theorem SameCounts.accInv (h : SameCounts st st') (ha : AccInv st) : AccInv st' := by
  have hex : ∀ c k, st'.conns c = some k → ∃ k', st.conns c = some k' ∧ k'.name = k.name := by
    intro c k hk
    have := h.names c
    rw [hk] at this
    obtain ⟨k', hk', he⟩ := Option.map_eq_some_iff.1 this.symm
    exact ⟨k', hk', he⟩
  refine ⟨h.accounted ha.accounted, h.dbs ▸ ha.names, fun c k hk => ?_, fun c k hk => ?_⟩
  · obtain ⟨k', hk', he⟩ := hex c k hk
    rw [h.dbs, ← he]; exact ha.named c k' hk'
  · obtain ⟨k', hk', -⟩ := hex c k hk
    rw [h.fresh]; exact ha.lt c k' hk'

/-- A new database has no connections yet. -/
theorem AccInv.register (ha : AccInv st) {name : String} {connMax : Nat}
    (hn : ∀ d ∈ st.dbs, d.name ≠ name) :
    AccInv { st with dbs := { name := name, connMax := connMax } :: st.dbs } := by
  have hzero : st.liveCount name = 0 := by
    rw [St.liveCount, Finset.card_eq_zero, Finset.filter_eq_empty_iff]
    intro c _ hc
    obtain ⟨k, hk, he⟩ := (Option.any_eq_true _ _).1 hc
    obtain ⟨d, hd, hdn⟩ := ha.named c k hk
    exact hn d hd (hdn.trans (by simpa using he))
  refine ⟨fun d hd => ?_, ?_, fun c k hk => ?_, ha.lt⟩
  · rcases List.mem_cons.1 hd with rfl | hd
    · exact ⟨hzero.symm, fun _ => Nat.zero_le _⟩
    · exact ha.accounted d hd
  · refine List.nodup_cons.2 ⟨fun hm => ?_, ha.names⟩
    obtain ⟨d, hd, he⟩ := List.mem_map.1 hm
    exact hn d hd he
  · obtain ⟨d, hd, he⟩ := ha.named c k hk
    exact ⟨d, .tail _ hd, he⟩

/-- A new connection counts for its name and for no other. -/
theorem liveCount_create (st : St) (db name : String) :
    (st.connCreate w db).liveCount name = st.liveCount name + if name = db then 1 else 0 := by
  have hne : ∀ c ∈ Finset.range st.fresh,
      ((st.connCreate w db).conns c).any (·.name == name) = (st.conns c).any (·.name == name) := by
    intro c hc
    rw [St.connCreate_conns_of_ne w st db (Nat.ne_of_lt (Finset.mem_range.1 hc))]
  rw [St.liveCount, show (st.connCreate w db).fresh = st.fresh + 1 from rfl, Finset.range_add_one,
    Finset.filter_insert, St.connCreate_conns_self,
    Finset.filter_congr fun c hc => by rw [hne c hc]]
  by_cases hn : name = db
  · subst hn
    rw [if_pos (by simp), Finset.card_insert_of_notMem (by simp), if_pos rfl]
    rfl
  · rw [if_neg (by simpa using Ne.symm hn), if_neg hn]
    rfl

/-- Creating a connection while there is room keeps the counts. -/
theorem AccInv.create (ha : AccInv st) {db : String} (hcr : Creates st db)
    (hroom : st.liveCount db + 1 < 2 ^ w) : AccInv (st.connCreate w db) := by
  obtain ⟨-, -, d₀, hd₀, hmax⟩ := hcr
  have hd₀m := List.mem_of_find?_eq_some hd₀
  have hd₀n : d₀.name = db := by simpa using List.find?_some hd₀
  have hmap : (st.connCreate w db).dbs.map Db.name = st.dbs.map Db.name := by
    simp only [St.connCreate, List.map_map]
    refine List.map_congr_left fun d _ => ?_
    simp only [Function.comp]
    split <;> rfl
  refine ⟨fun d' hd' => ?_, hmap ▸ ha.names, fun c k hk => ?_, fun c k hk => ?_⟩
  · obtain ⟨d, hd, rfl⟩ := List.mem_map.1 hd'
    obtain ⟨hcount, hle⟩ := ha.accounted d hd
    by_cases hn : d.name = db
    · obtain rfl := List.inj_on_of_nodup_map ha.names hd hd₀m (hn.trans hd₀n.symm)
      rw [if_pos hn]
      dsimp only
      rw [liveCount_create, if_pos hn, hcount, hn, Nat.mod_eq_of_lt hroom]
      refine ⟨rfl, fun hne => ?_⟩
      rw [hcount, hn] at hmax
      omega
    · rw [if_neg hn, liveCount_create, if_neg hn]
      exact ⟨hcount, hle⟩
  · by_cases hcf : c = st.fresh
    · subst hcf
      rw [St.connCreate_conns_self] at hk
      cases hk
      exact List.mem_map.1 (hmap ▸ List.mem_map.2 ⟨d₀, hd₀m, hd₀n⟩)
    · rw [St.connCreate_conns_of_ne w st db hcf] at hk
      obtain ⟨d, hd, he⟩ := ha.named c k hk
      exact List.mem_map.1 (hmap ▸ List.mem_map.2 ⟨d, hd, he⟩)
  · by_cases hcf : c = st.fresh
    · rw [hcf]; exact Nat.lt_succ_self _
    · rw [St.connCreate_conns_of_ne w st db hcf] at hk
      exact Nat.lt_succ_of_lt (ha.lt c k hk)

/-- The step lemma: a step that cleans nothing up and overflows nothing keeps the counts. -/
theorem AccInv.step {e : Ev} (ha : AccInv st) (hc : ¬ RunsCleanup st e ∧ ¬ Overflows w st e)
    (h : step w st e = some st') : AccInv st' := by
  rcases step_counts h hc.1 with h1 | ⟨name, connMax, hn, rfl⟩ | ⟨o, db, rfl, hcr, h1⟩
  · exact h1.accInv ha
  · exact ha.register hn
  · refine h1.accInv (ha.create hcr ?_)
    by_contra hroom
    exact hc.2 ⟨db, hcr, Nat.le_of_not_lt hroom⟩

/-- The invariant holds of a pool without connections. -/
theorem IsInit.accInv (h : IsInit st) : AccInv st := by
  obtain ⟨h1, h2, -⟩ := h
  refine ⟨fun d hd => ?_, ?_, fun c k hk => ?_, fun c k hk => ?_⟩
  · rw [h1] at hd; cases hd
  · rw [h1]; exact List.nodup_nil
  · rw [h2] at hk; cases hk
  · rw [h2] at hk; cases hk

end

/-- **Connection accounting.** In every run in which no event runs `pgsql_conn_cleanup` and no
connection is created without room in `conn_count`, every database's `conn_count` is the number of
the live connections that carry its name, and is within its limit, in every state reached. -/
theorem counts_exact_without_cleanup (w : Nat) {st₀ : St} {evs : List Ev} (h0 : IsInit st₀)
    (hm : Meets (step w) (fun st e => ¬ RunsCleanup st e ∧ ¬ Overflows w st e) st₀ evs) :
    Always (step w) Accounted st₀ evs := by
  intro pre st hpre hrun
  obtain ⟨post, rfl⟩ := hpre
  exact (exec_inv_of_meets (fun _ _ _ ha hc h => AccInv.step ha hc h) hm.of_append hrun
    h0.accInv).accounted

/-- A pool of two `kore_pgsql` bound to callbacks. -/
def callbackPool : St := { pgs := fun _ => { bound := .callback } }

/-- There are no more connections than were created. -/
theorem liveCount_le (st : St) (name : String) : st.liveCount name ≤ st.fresh :=
  (Finset.card_filter_le _ _).trans (Finset.card_range _).le

/-- A connection is opened and given back. -/
def openAndRelease : List Ev :=
  [.register "log" 2, .register "db" 2, .setup 0 "db" true false, .scan {}, .cleanup 0, .ret, .ret,
    .ret]

/-- A connection is opened and released. -/
theorem counts_exact_without_cleanup_openAndRelease :
    ∃ st, exec (step 16) callbackPool openAndRelease = some st ∧
      st.dbs.map Db.connCount = [1, 0] ∧ st.free = [0] ∧ Accounted st := by
  refine ⟨_, rfl, rfl, rfl, ?_⟩
  refine @counts_exact_without_cleanup 16 callbackPool openAndRelease
    ⟨rfl, fun _ => rfl, rfl, rfl, fun _ => rfl, rfl, rfl, rfl⟩ ?_ _ _ List.prefix_rfl rfl
  refine .cons ⟨id, id⟩ rfl (.cons ⟨id, id⟩ rfl (.cons ⟨id, id⟩ rfl (.cons ⟨?_, ?_⟩ rfl
    (.cons ⟨id, id⟩ rfl (.cons ⟨?_, id⟩ rfl (.cons ⟨?_, id⟩ rfl (.cons ⟨?_, id⟩ rfl trivial)))))))
  · rintro ⟨h, -⟩; cases h
  · rintro ⟨db, -, h⟩
    have hle := h.trans (Nat.add_le_add_right (liveCount_le _ db) 1)
    exact absurd hle (by decide)
  · rintro ⟨c, rest, h⟩; cases h
  · rintro ⟨c, rest, h⟩; cases h
  · rintro ⟨c, rest, h⟩; cases h

/-- The first attempt to connect fails: the connection is gone and still counted. -/
theorem failed_connect_miscounts :
    ¬ ∀ (w : Nat) (st₀ st : St) (evs : List Ev), IsInit st₀ → exec (step w) st₀ evs = some st →
      Accounted st := by
  intro h
  have := h 16 callbackPool _ [.register "db" 2, .setup 0 "db" true false,
    .scan { connectOk := false }] ⟨rfl, fun _ => rfl, rfl, rfl, fun _ => rfl, rfl, rfl, rfl⟩ rfl
    _ (.head _)
  exact absurd this.1 (by decide)

end KoreWebsocket.Pgsql.Pool
