import Archiver.Page.Extraction
import Archiver.Proofs.Page.TwinMarkdown
import Archiver.Proofs.Page.TwinScores

namespace Archiver

/-- The bodies of two pages, written out and read again, differ at most in the texts in and below
silent elements. What is written out is not always read as it was: the text of a script that was never
closed may hide the end of its element and take in what follows. -/
def Document.BodyTwin (d d' : Document) : Prop :=
  ∃ R, Nodes.Twin R false (parseDocument d.bodyHtml).nodes (parseDocument d'.bodyHtml).nodes

section Stages

variable {d d' : Document} {chain : List Stage}

theorem wholeBody_twin (h : d.BodyTwin d') : Stage.run .wholeBody d = Stage.run .wholeBody d' := by
  obtain ⟨R, h⟩ := h
  rw [Stage.run, Stage.run, htmlToMarkdown, htmlToMarkdown, rawMarkdown_twin h]

theorem run_twin (h : d.Twin d')
    (hscored : Stage.mainContent ∈ chain → d.ScoredOpenly)
    (hbody : Stage.wholeBody ∈ chain → d.BodyTwin d') :
    ∀ stage ∈ chain, stage.run d = stage.run d' := by
  obtain ⟨R, h⟩ := h
  intro stage hstage
  cases stage with
  | mainContent => rw [Stage.run, Stage.run, mainContent_twin h (hscored hstage)]
  | wholeBody => exact wholeBody_twin (hbody hstage)
  | textOnly => rw [Stage.run, Stage.run, plainText_twin h]

theorem firstAccepted_eq (least : Nat) (h : ∀ stage ∈ chain, stage.run d = stage.run d') :
    firstAccepted least d chain = firstAccepted least d' chain := by
  induction chain with
  | nil => rfl
  | cons stage chain ih =>
    rw [firstAccepted, firstAccepted, h stage List.mem_cons_self,
      ih fun s hs => h s (List.mem_cons_of_mem _ hs)]

theorem extract_metadata (least : Nat) (chain : List Stage) (url : CanonicalUrl) (d : Document) :
    (extract least chain url d).metadata = d.metadata := by
  unfold extract
  split <;> rfl

end Stages

/-- Texts in and below script and style elements have no part in what is taken from a page as long as
the stages and the names of the page are read from elements that hold none. The visible text, the mark
of a premium article and the date never hear them. -/
theorem extract_twin {d d' : Document} (h : d.Twin d') (least : Nat) (chain : List Stage)
    (url : CanonicalUrl) :
    ((Stage.mainContent ∈ chain → d.ScoredOpenly) →
      (Stage.wholeBody ∈ chain → d.BodyTwin d') →
      (extract least chain url d).success = (extract least chain url d').success ∧
        (extract least chain url d).stage = (extract least chain url d').stage ∧
        (extract least chain url d).markdown = (extract least chain url d').markdown) ∧
      (d.NamesOpenly →
        (extract least chain url d).metadata = (extract least chain url d').metadata) ∧
      (extract least chain url d).metadata.isPremium =
        (extract least chain url d').metadata.isPremium ∧
      (extract least chain url d).metadata.publishDate =
        (extract least chain url d').metadata.publishDate := by
  refine ⟨fun hscored hbody => ?_, fun hnames => ?_, ?_, ?_⟩
  · have hfirst := firstAccepted_eq least (run_twin h hscored hbody)
    unfold Extraction.success extract
    rw [hfirst]
    split <;> exact ⟨rfl, rfl, rfl⟩
  · obtain ⟨R, h⟩ := h
    rw [extract_metadata, extract_metadata, metadata_twin h hnames]
  · obtain ⟨R, h⟩ := h
    rw [extract_metadata, extract_metadata, isPremium_twin h]
  · obtain ⟨R, h⟩ := h
    rw [extract_metadata, extract_metadata]
    exact firstTime_twin h

/-- A page with a script beside its article. -/
def bridgePage (script : List Char) : List Char :=
  "<body><script>".toList ++ script ++
    "</script><main><article class=content><h1>Bridge</h1><p>The mayor opened the bridge.".toList

/-- That page as it is read: `script` holds the nodes of its script, `n` is the order of the first
element after it. -/
def bridgeTree (script : Nodes) (n : Nat) : Nodes :=
  .element ⟨1, .html, "html", []⟩
    (.element ⟨2, .html, "head", []⟩ .nil
      (.element ⟨3, .html, "body", []⟩
        (.element ⟨4, .html, "script", []⟩ script
          (.element ⟨n, .html, "main", []⟩
            (.element ⟨n + 1, .html, "article", [⟨.plain, "class", "content".toList⟩]⟩
              (.element ⟨n + 2, .html, "h1", []⟩ (.text "Bridge".toList .nil)
                (.element ⟨n + 4, .html, "p", []⟩ (.text "The mayor opened the bridge.".toList .nil)
                  .nil))
              .nil)
            .nil))
        .nil))
    .nil

def bridgeDocument : Document := ⟨bridgeTree (.text "go()".toList .nil) 6, [], false⟩

def bareBridgeDocument : Document := ⟨bridgeTree .nil 5, [], false⟩

/-- Orders up to `k` are kept, and the other page lacks the next one. -/
def ShiftsAfter (k a b : Nat) : Prop := a ≤ k ∧ b = a ∨ k + 1 < a ∧ a = b + 1

theorem keepsOrder_shiftsAfter (k : Nat) : KeepsOrder (ShiftsAfter k) := by
  intro a a' b b' ha hb
  unfold ShiftsAfter at ha hb
  omega

theorem bridgeTree_twin (script : List Char) :
    Nodes.Twin (ShiftsAfter 4) false (bridgeTree (.text script .nil) 6) (bridgeTree .nil 5) := by
  have element : ∀ {a b : Nat} {name : String} {attributes : List Attribute}, ShiftsAfter 4 a b →
      Element.Twin (ShiftsAfter 4) ⟨a, .html, name, attributes⟩ ⟨b, .html, name, attributes⟩ :=
    fun horder => ⟨_, horder, rfl⟩
  have same : ∀ {a : Nat}, a ≤ 4 → ShiftsAfter 4 a a := fun ha => .inl ⟨ha, rfl⟩
  have next : ∀ {a : Nat}, 5 ≤ a → ShiftsAfter 4 (a + 1) a := fun ha =>
    .inr ⟨Nat.lt_succ_of_le ha, rfl⟩
  refine .element (element (same (by decide))) ?_ .nil
  refine .element (element (same (by decide))) .nil ?_
  refine .element (element (same (by decide))) ?_ .nil
  refine .element (element (same (by decide))) (.left script .nil) ?_
  refine .element (element (next (by decide))) ?_ .nil
  refine .element (element (next (by decide))) ?_ .nil
  exact .element (element (next (by decide))) (.text _ .nil)
    (.element (element (next (by decide))) (.text _ .nil) .nil)

theorem bridgeDocument_twin : bridgeDocument.Twin bareBridgeDocument :=
  ⟨_, keepsOrder_shiftsAfter 4, bridgeTree_twin _, .nil, rfl, rfl⟩

theorem bridgeDocument_bodyTwin : bridgeDocument.BodyTwin bareBridgeDocument := by
  have hread : (parseDocument bridgeDocument.bodyHtml).nodes = bridgeDocument.nodes ∧
      (parseDocument bareBridgeDocument.bodyHtml).nodes = bareBridgeDocument.nodes := by
    decide +kernel
  rw [Document.BodyTwin, hread.1, hread.2]
  exact ⟨_, bridgeTree_twin _⟩

theorem bridgeDocument_open : bridgeDocument.ScoredOpenly ∧ bridgeDocument.NamesOpenly := by
  refine ⟨⟨by decide +kernel, by decide +kernel⟩, ?_⟩
  unfold Document.NamesOpenly
  decide +kernel

theorem parse_bridgePage :
    parseDocument (bridgePage "go()".toList) = bridgeDocument ∧
      parseDocument (bridgePage []) = bareBridgeDocument := by
  decide +kernel

theorem extract_twin_bridge :
    parseDocument (bridgePage "go()".toList) = bridgeDocument ∧
      parseDocument (bridgePage []) = bareBridgeDocument ∧
      bridgeDocument.Twin bareBridgeDocument ∧ bridgeDocument.ScoredOpenly ∧
      bridgeDocument.BodyTwin bareBridgeDocument ∧ bridgeDocument.NamesOpenly ∧
      (extract 1 Stage.chain default bridgeDocument).stage = some .mainContent ∧
      (extract 1 Stage.chain default bridgeDocument).success =
        (extract 1 Stage.chain default bareBridgeDocument).success ∧
      (extract 1 Stage.chain default bridgeDocument).stage =
        (extract 1 Stage.chain default bareBridgeDocument).stage ∧
      (extract 1 Stage.chain default bridgeDocument).markdown =
        (extract 1 Stage.chain default bareBridgeDocument).markdown ∧
      (extract 1 Stage.chain default bridgeDocument).metadata =
        (extract 1 Stage.chain default bareBridgeDocument).metadata := by
  obtain ⟨hscored, hnames⟩ := bridgeDocument_open
  have hbody := bridgeDocument_bodyTwin
  have htwin := extract_twin bridgeDocument_twin 1 Stage.chain default
  obtain ⟨hsuccess, hstage, hmarkdown⟩ := htwin.1 (fun _ => hscored) fun _ => hbody
  exact ⟨parse_bridgePage.1, parse_bridgePage.2, bridgeDocument_twin, hscored, hbody, hnames,
    by decide +kernel, hsuccess, hstage, hmarkdown, htwin.2.1 hnames⟩

/-- A page with one script in its headline and in its paragraph. -/
def chattyPage (script : List Char) : List Char :=
  "<article class=content><h1>News<script>".toList ++ script ++
    "</script></h1><p>Short.<script>".toList ++ script ++ "</script>".toList

/-- That page as it is read. -/
def chattyDocument (script : List Char) : Document where
  nodes :=
    .element ⟨1, .html, "html", []⟩
      (.element ⟨2, .html, "head", []⟩ .nil
        (.element ⟨3, .html, "body", []⟩
          (.element ⟨4, .html, "article", [⟨.plain, "class", "content".toList⟩]⟩
            (.element ⟨5, .html, "h1", []⟩
              (.text "News".toList (.element ⟨7, .html, "script", []⟩ (.text script .nil) .nil))
              (.element ⟨9, .html, "p", []⟩
                (.text "Short.".toList (.element ⟨11, .html, "script", []⟩ (.text script .nil) .nil))
                .nil))
            .nil)
          .nil))
      .nil
  loose := []
  isFragment := false

theorem chattyDocument_twin (script script' : List Char) :
    (chattyDocument script).Twin (chattyDocument script') := by
  have self : ∀ e : Element, e.Twin Eq e := fun e => ⟨e.order, rfl, rfl⟩
  have scripts : ∀ n, Nodes.Twin Eq false
      (.element ⟨n, .html, "script", []⟩ (.text script .nil) .nil)
      (.element ⟨n, .html, "script", []⟩ (.text script' .nil) .nil) :=
    fun n => .element (self _) (.left script (.right script' .nil)) .nil
  refine ⟨Eq, fun a a' b b' ha hb => ha ▸ hb ▸ Iff.rfl, ?_, .nil, rfl, rfl⟩
  refine .element (self _) ?_ .nil
  refine .element (self _) .nil ?_
  refine .element (self _) ?_ .nil
  refine .element (self _) ?_ .nil
  exact .element (self _) (.text _ (scripts 7)) (.element (self _) (.text _ (scripts 11)) .nil)

/-- A script in a headline is heard in the title, one in a paragraph in the choice of the stage. -/
theorem heard_scripts :
    parseDocument (chattyPage "ab".toList) = chattyDocument "ab".toList ∧
      parseDocument (chattyPage "run(1); run(2); run(3);".toList) =
        chattyDocument "run(1); run(2); run(3);".toList ∧
      (chattyDocument "ab".toList).Twin (chattyDocument "run(1); run(2); run(3);".toList) ∧
      (extract 1 Stage.chain default (chattyDocument "ab".toList)).metadata ≠
        (extract 1 Stage.chain default (chattyDocument "run(1); run(2); run(3);".toList)).metadata ∧
      (extract 1 Stage.chain default (chattyDocument "ab".toList)).stage ≠
        (extract 1 Stage.chain default (chattyDocument "run(1); run(2); run(3);".toList)).stage :=
  ⟨by decide +kernel, by decide +kernel, chattyDocument_twin _ _, by decide +kernel, by decide +kernel⟩

end Archiver
