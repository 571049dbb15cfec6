import Mathlib.Data.List.Basic
import TableInterfaces.Naming.Sanitizer
import TableInterfaces.Proofs.Result

/-!
# Remembered replies

A sanitizer remembers its replies under the name and the suffix joined by an underscore. Names and
suffixes may hold underscores themselves, so two requests may ask under one key, and the later one
is given the reply to the earlier one. Main statement:

* `Sanitizer.replies_fresh_iff`: for which rows of requests every reply is that of a sanitizer that
  has not been asked before.
-/

namespace TableInterfaces.Naming

open TableInterfaces.Json

/-- What a sanitizer is asked for: a name, and the suffix behind it where it is reserved. -/
structure Request where
  name : Value
  suffix : String

namespace Request

variable {words : ReservedWords} {q r : Request}

/-- The key under which the reply to a request is remembered. -/
def key (r : Request) : String :=
  Sanitizer.answerKey r.name r.suffix

/-- The reply of a sanitizer that has not been asked before. -/
def freshReply (words : ReservedWords) (r : Request) : Result String :=
  match r.name with
  | .text text => .ok (words.sanitize text r.suffix)
  | _ => misuse (.notText r.name.kind)

/-- The names and suffixes of two requests are parts of one text, which the requests cut at the same
underscore or at different ones. -/
def SharesText (q r : Request) : Prop :=
  (q.name.display = r.name.display ∧ q.suffix = r.suffix) ∨
    (∃ between, r.name.display = q.name.display ++ "_" ++ between ∧
      q.suffix = between ++ "_" ++ r.suffix) ∨
    ∃ between, q.name.display = r.name.display ++ "_" ++ between ∧
      r.suffix = between ++ "_" ++ q.suffix

theorem SharesText.symm (h : q.SharesText r) : r.SharesText q := by
  rcases h with ⟨hname, hsuffix⟩ | h | h
  · exact .inl ⟨hname.symm, hsuffix.symm⟩
  · exact .inr (.inr h)
  · exact .inr (.inl h)

/-- The characters of a key. -/
theorem toList_key (r : Request) :
    r.key.toList = r.name.display.toList ++ '_' :: r.suffix.toList := by
  simp [key, Sanitizer.answerKey]

/-- A request whose name goes on with what the suffix of another one begins with. -/
theorem sharesText_of_front {front : List Char}
    (hname : r.name.display.toList = q.name.display.toList ++ front)
    (hsuffix : '_' :: q.suffix.toList = front ++ '_' :: r.suffix.toList) : q.SharesText r := by
  cases front with
  | nil =>
    refine .inl ⟨String.toList_inj.1 ?_, String.toList_inj.1 ?_⟩
    · simpa using hname.symm
    · simpa using hsuffix
  | cons c between =>
    obtain ⟨rfl, hsuffix⟩ := List.cons.inj hsuffix
    refine .inr (.inl ⟨String.ofList between, String.toList_inj.1 ?_, String.toList_inj.1 ?_⟩)
    · simpa using hname
    · simpa using hsuffix

/-- Requests are remembered under one key just where they share their text. -/
theorem key_eq_iff : q.key = r.key ↔ q.SharesText r := by
  constructor
  · intro h
    have h := congrArg String.toList h
    rw [toList_key, toList_key] at h
    rcases List.append_eq_append_iff.1 h with ⟨front, hname, hsuffix⟩ | ⟨front, hname, hsuffix⟩
    · exact sharesText_of_front hname hsuffix
    · exact (sharesText_of_front hname hsuffix).symm
  · rintro (⟨hname, hsuffix⟩ | ⟨between, hname, hsuffix⟩ | ⟨between, hname, hsuffix⟩) <;>
      simp [key, Sanitizer.answerKey, hname, hsuffix, String.append_assoc]

/-- A text has an answer. -/
theorem freshReply_text {text : String} (h : r.name = .text text) :
    r.freshReply words = .ok (words.sanitize text r.suffix) := by
  rw [freshReply, h]

/-- Requests for one text with one suffix are the same. -/
theorem eq_of_text (hq : q.name.kind = .text) (hr : r.name.kind = .text)
    (hname : q.name.display = r.name.display) (hsuffix : q.suffix = r.suffix) : q = r := by
  obtain ⟨name, suffix⟩ := q
  obtain ⟨name', suffix'⟩ := r
  cases name with
  | text s =>
    cases name' with
    | text s' =>
      cases (show s = s' from hname)
      cases (show suffix = suffix' from hsuffix)
      rfl
    | _ => cases hr
  | _ => cases hq

/-- Where a text was asked for under the key of a later request, both have the same answer. -/
def Agrees (words : ReservedWords) (q r : Request) : Prop :=
  q.name.kind = .text → q.SharesText r → q.freshReply words = r.freshReply words

end Request

namespace Sanitizer

open Request

variable {words : ReservedWords} {s : Sanitizer} {seen requests : List Request} {q r : Request}

/-- The reply to a request, and the sanitizer after it. A request without an answer leaves the
sanitizer as it is. -/
def reply (s : Sanitizer) (r : Request) : Result String × Sanitizer :=
  match s.sanitize r.name r.suffix with
  | .ok (answer, after) => (.ok answer, after)
  | .error fault => (.error fault, s)

/-- The replies to requests that come one after the other. -/
def replies (s : Sanitizer) : List Request → List (Result String)
  | [] => []
  | r :: rest => (s.reply r).1 :: (s.reply r).2.replies rest

/-! ## One request -/

/-- A remembered answer is given again. -/
theorem reply_known {answer : String} (h : s.answers.lookup r.key = some answer) :
    s.reply r = (.ok answer, s) := by
  unfold reply sanitize
  rw [key] at h
  simp only [h]

/-- The answer for a text under a new key is remembered. -/
theorem reply_text {text : String} (h : s.answers.lookup r.key = none) (hr : r.name = .text text) :
    s.reply r = (.ok (s.words.sanitize text r.suffix),
      { s with answers := (r.key, s.words.sanitize text r.suffix) :: s.answers }) := by
  unfold reply sanitize
  rw [key, hr] at h
  simp only [key, hr, h]

/-- What is no text has no answer under a new key. -/
theorem reply_other (h : s.answers.lookup r.key = none) (hr : r.name.kind ≠ .text) :
    s.reply r = (r.freshReply words, s) := by
  unfold reply sanitize freshReply
  rw [key] at h
  simp only [h]
  cases hname : r.name with
  | text text => exact absurd (by rw [hname]; rfl) hr
  | _ => rfl

/-- A sanitizer knows the answers for the texts among the requests so far, and remembers nothing
else. -/
structure Knows (words : ReservedWords) (seen : List Request) (s : Sanitizer) : Prop where
  words_eq : s.words = words
  known : ∀ q ∈ seen, q.name.kind = .text →
    ∃ answer, s.answers.lookup q.key = some answer ∧ q.freshReply words = .ok answer
  origin : ∀ key answer, s.answers.lookup key = some answer →
    ∃ q ∈ seen, q.name.kind = .text ∧ q.key = key

theorem Knows.new (words : ReservedWords) : Knows words [] ⟨words, []⟩ :=
  ⟨rfl, nofun, nofun⟩

/-- No text was asked for under a key that is not remembered. -/
theorem Knows.not_key (h : Knows words seen s) (hnew : s.answers.lookup r.key = none)
    (hq : q ∈ seen) (htext : q.name.kind = .text) : q.key ≠ r.key := by
  intro hkey
  obtain ⟨answer, hknown, -⟩ := h.known q hq htext
  rw [hkey, hnew] at hknown
  cases hknown

/-- The answer for a new text becomes known. -/
theorem Knows.remember (h : Knows words seen s) (hnew : s.answers.lookup r.key = none)
    {text : String} (hr : r.name = .text text) :
    Knows words (r :: seen)
      { s with answers := (r.key, words.sanitize text r.suffix) :: s.answers } where
  words_eq := h.words_eq
  known := by
    intro q hq htext
    rw [List.lookup_cons]
    rcases List.mem_cons.1 hq with rfl | hq
    · exact ⟨_, by rw [beq_self_eq_true], freshReply_text hr⟩
    · rw [beq_false_of_ne (h.not_key hnew hq htext)]
      exact h.known q hq htext
  origin := by
    intro key answer hlookup
    rw [List.lookup_cons] at hlookup
    split at hlookup
    · rename_i hkey
      exact ⟨r, List.mem_cons_self, by rw [hr]; rfl, (beq_iff_eq.1 hkey).symm⟩
    · obtain ⟨q, hq, horigin⟩ := h.origin key answer hlookup
      exact ⟨q, List.mem_cons_of_mem _ hq, horigin⟩

/-- What has no answer adds nothing to what is known. -/
theorem Knows.skip (h : Knows words seen s) (hr : r.name.kind ≠ .text) :
    Knows words (r :: seen) s where
  words_eq := h.words_eq
  known := by
    intro q hq htext
    rcases List.mem_cons.1 hq with rfl | hq
    · exact absurd htext hr
    · exact h.known q hq htext
  origin := fun key answer hlookup =>
    (h.origin key answer hlookup).imp fun _ ⟨hq, horigin⟩ => ⟨List.mem_cons_of_mem _ hq, horigin⟩

/-- An answer that is given again is known for the new request, too, if it is that request's own. -/
theorem Knows.again (h : Knows words seen s) {answer : String}
    (hknown : s.answers.lookup r.key = some answer) (hr : r.freshReply words = .ok answer) :
    Knows words (r :: seen) s where
  words_eq := h.words_eq
  known := by
    intro q hq htext
    rcases List.mem_cons.1 hq with rfl | hq
    · exact ⟨answer, hknown, hr⟩
    · exact h.known q hq htext
  origin := fun key answer hlookup =>
    (h.origin key answer hlookup).imp fun _ ⟨hq, horigin⟩ => ⟨List.mem_cons_of_mem _ hq, horigin⟩

/-- The reply to one more request is its own where it agrees with all requests before it, and then
the sanitizer knows the answer for it, too. -/
theorem Knows.step (h : Knows words seen s) (r : Request) :
    ((s.reply r).1 = r.freshReply words ↔ ∀ q ∈ seen, q.Agrees words r) ∧
      ((s.reply r).1 = r.freshReply words → Knows words (r :: seen) (s.reply r).2) := by
  cases hlookup : s.answers.lookup r.key with
  | some answer =>
    rw [reply_known hlookup]
    refine ⟨⟨fun hfresh q hq htext hshares => ?_, fun hagrees => ?_⟩,
      fun hfresh => h.again hlookup hfresh.symm⟩
    · obtain ⟨answer', hknown, hq⟩ := h.known q hq htext
      rw [key_eq_iff.2 hshares, hlookup] at hknown
      cases hknown
      exact hq.trans hfresh
    · obtain ⟨q, hq, htext, hkey⟩ := h.origin _ _ hlookup
      obtain ⟨answer', hknown, hfresh⟩ := h.known q hq htext
      rw [hkey, hlookup] at hknown
      cases hknown
      exact hfresh.symm.trans (hagrees q hq htext (key_eq_iff.1 hkey))
  | none =>
    have hagrees : ∀ q ∈ seen, q.Agrees words r := fun q hq htext hshares =>
      absurd (key_eq_iff.2 hshares) (h.not_key hlookup hq htext)
    by_cases hr : r.name.kind = .text
    · obtain ⟨text, hr⟩ : ∃ text, r.name = .text text := by
        cases hname : r.name with
        | text text => exact ⟨text, rfl⟩
        | _ => rw [hname] at hr; cases hr
      rw [reply_text hlookup hr, h.words_eq]
      refine ⟨iff_of_true (freshReply_text hr).symm hagrees, fun _ => ?_⟩
      have hknows := h.remember hlookup hr
      rwa [h.words_eq] at hknows
    · rw [reply_other hlookup hr]
      exact ⟨iff_of_true rfl hagrees, fun _ => h.skip hr⟩

/-! ## Rows of requests -/

/-- The replies to more requests are their own where they agree with all requests before them. -/
theorem Knows.replies_iff (h : Knows words seen s) (requests : List Request) :
    s.replies requests = requests.map (freshReply words) ↔
      (∀ q ∈ seen, ∀ r ∈ requests, q.Agrees words r) ∧ requests.Pairwise (Agrees words) := by
  induction requests generalizing seen s with
  | nil => exact iff_of_true rfl ⟨nofun, .nil⟩
  | cons r rest ih =>
    obtain ⟨hreply, hknows⟩ := h.step r
    rw [replies, List.map_cons, List.cons.injEq, List.pairwise_cons]
    constructor
    · rintro ⟨hfirst, hrest⟩
      obtain ⟨hseen, hpairwise⟩ := (ih (hknows hfirst)).1 hrest
      refine ⟨fun q hq => List.forall_mem_cons.2 ⟨hreply.1 hfirst q hq, ?_⟩, ?_, hpairwise⟩
      · exact hseen q (List.mem_cons_of_mem _ hq)
      · exact hseen r List.mem_cons_self
    · rintro ⟨hseen, hr, hpairwise⟩
      have hfirst := hreply.2 fun q hq => hseen q hq r List.mem_cons_self
      refine ⟨hfirst, (ih (hknows hfirst)).2 ⟨List.forall_mem_cons.2 ⟨hr, ?_⟩, hpairwise⟩⟩
      exact fun q hq r' hr' => hseen q hq r' (List.mem_cons_of_mem _ hr')

/-- **When a remembered reply is the right one.** Every reply of a sanitizer is that of a new one
with the same reserved words just where the requests for texts agree with all later ones that share
their text: a name and a suffix that make up the same text with an underscore, perhaps cut at
another underscore, have to have the same answer. All replies are right where names are texts and no
suffix ends in an underscore and another suffix, so wherever one suffix is used. -/
theorem replies_fresh_iff (words : ReservedWords) (requests : List Request) :
    (replies ⟨words, []⟩ requests = requests.map (freshReply words) ↔
      requests.Pairwise fun q r => q.name.kind = .text → q.SharesText r →
        q.freshReply words = r.freshReply words) ∧
    ((∀ q ∈ requests, q.name.kind = .text) →
      (∀ q ∈ requests, ∀ r ∈ requests, ∀ between, q.suffix ≠ between ++ "_" ++ r.suffix) →
      replies ⟨words, []⟩ requests = requests.map (freshReply words)) ∧
    ∀ suffix, (∀ q ∈ requests, q.name.kind = .text ∧ q.suffix = suffix) →
      replies ⟨words, []⟩ requests = requests.map (freshReply words) := by
  have hiff := ((Knows.new words).replies_iff requests).trans (and_iff_right nofun)
  have hplain : (∀ q ∈ requests, q.name.kind = .text) →
      (∀ q ∈ requests, ∀ r ∈ requests, ∀ between, q.suffix ≠ between ++ "_" ++ r.suffix) →
      replies ⟨words, []⟩ requests = requests.map (freshReply words) := by
    intro htexts hsuffixes
    refine hiff.2 (List.pairwise_of_forall_mem_list ?_)
    rintro q hq r hr - (⟨hname, hsuffix⟩ | ⟨between, -, hsuffix⟩ | ⟨between, -, hsuffix⟩)
    · rw [eq_of_text (htexts q hq) (htexts r hr) hname hsuffix]
    · exact absurd hsuffix (hsuffixes q hq r hr between)
    · exact absurd hsuffix (hsuffixes r hr q hq between)
  refine ⟨hiff, hplain, fun suffix hone => ?_⟩
  refine hplain (fun q hq => (hone q hq).1) fun q hq r hr between hsuffix => ?_
  rw [(hone q hq).2, (hone r hr).2] at hsuffix
  have hlength := congrArg String.length hsuffix
  simp at hlength

/-- Two requests that share the text `order_item__`: the second one is given the answer to the
first. -/
def orderItem : List Request :=
  [⟨.text "order", "item__"⟩, ⟨.text "order_item", "_"⟩]

/-- A new sanitizer makes `order_item` the name `OrderItem`, and one that has been asked for `order`
with a suffix makes it `Order`. -/
theorem orderItem_replies :
    orderItem.map (freshReply ⟨[], []⟩) = [.ok "Order", .ok "OrderItem"] ∧
      replies ⟨⟨[], []⟩, []⟩ orderItem = [.ok "Order", .ok "Order"] ∧
      ¬orderItem.Pairwise (Agrees ⟨[], []⟩) := by
  have horder : ReservedWords.sanitize ⟨[], []⟩ "order" "item__" = "Order" := by decide +kernel
  have hitem : ReservedWords.sanitize ⟨[], []⟩ "order_item" "_" = "OrderItem" := by decide +kernel
  have hfresh : orderItem.map (freshReply ⟨[], []⟩) = [.ok "Order", .ok "OrderItem"] := by
    simp [orderItem, freshReply, horder, hitem]
  have hreplies : replies ⟨⟨[], []⟩, []⟩ orderItem = [.ok "Order", .ok "Order"] := by
    have hkey : key ⟨.text "order_item", "_"⟩ = key ⟨.text "order", "item__"⟩ :=
      key_eq_iff.2 (.inr (.inr ⟨"item", rfl, rfl⟩))
    have hfirst : reply ⟨⟨[], []⟩, []⟩ ⟨.text "order", "item__"⟩ =
        (.ok "Order", ⟨⟨[], []⟩, [(key ⟨.text "order", "item__"⟩, "Order")]⟩) := by
      rw [reply_text rfl rfl]
      simp only [horder]
    have hsecond : (reply ⟨⟨[], []⟩, [(key ⟨.text "order", "item__"⟩, "Order")]⟩
        ⟨.text "order_item", "_"⟩).1 = .ok "Order" := by
      rw [reply_known (by rw [hkey, List.lookup_cons_self])]
    rw [orderItem, replies, hfirst, replies, hsecond, replies]
  refine ⟨hfresh, hreplies, fun h => ?_⟩
  have hsame := (replies_fresh_iff ⟨[], []⟩ orderItem).1.2 h
  rw [hreplies, hfresh] at hsame
  simp at hsame

end Sanitizer

end TableInterfaces.Naming
