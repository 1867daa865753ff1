import PublicSite.Proofs.Markup.Elements
import PublicSite.Proofs.Markup.Escape
import PublicSite.Proofs.Text.Digits
import PublicSite.Seo.Sitemap

/-!
# Reading the sitemap

The URLs of the sitemap are found again in its text, whatever they hold: no sign is left
in an escaped URL, and none stands in a date, in a frequency or in a priority, so every tag
of the sitemap is one that was written for an entry.
-/

namespace PublicSite.Decimal

open PublicSite.Text

/-! ## What is printed holds no sign -/

theorem sign_not_mem_decimalDigits (value : Nat) : '<' ∉ decimalDigits value :=
  not_mem_decimalDigits (by decide) value

theorem Binary64.sign_not_mem_printTenths (value : Binary64) : '<' ∉ value.printTenths := by
  have digits : '<' ∉
      decimalDigits (value.tenths / 10) ++ '.' :: decimalDigits (value.tenths % 10) := by
    simp [sign_not_mem_decimalDigits]
  unfold Binary64.printTenths
  split
  · simpa using digits
  · exact digits

theorem sign_not_mem_printTenths (value : Float32) : '<' ∉ printTenths value := by
  unfold printTenths
  split
  · exact Binary64.sign_not_mem_printTenths _
  · split_ifs <;> decide

end PublicSite.Decimal

namespace PublicSite

open PublicSite.Text PublicSite.Decimal

theorem Date.sign_not_mem_padded (width value : Nat) : '<' ∉ Date.padded width value := by
  simp [Date.padded, padLeft, sign_not_mem_decimalDigits]

theorem Date.sign_not_mem_print (date : Date) : '<' ∉ date.print := by
  have year : '<' ∉ Date.printYear date.year := by
    unfold Date.printYear
    dsimp only
    split_ifs <;> simp [Date.sign_not_mem_padded]
  simp [Date.print, year, Date.sign_not_mem_padded]

theorem Moment.sign_not_mem_print (moment : Moment) : '<' ∉ moment.print := by
  simp [Moment.print, Date.sign_not_mem_print, Date.sign_not_mem_padded]

end PublicSite

namespace PublicSite.Seo

open PublicSite.Decimal PublicSite.Markup

theorem ChangeFrequency.sign_not_mem_code (frequency : ChangeFrequency) :
    '<' ∉ frequency.code.toList := by
  cases frequency <;> decide

/-! ## Entries -/

namespace SitemapEntry

/-- What stands in an entry behind its URL. -/
def details (entry : SitemapEntry) : List Char :=
  "\n<lastmod>".toList ++ entry.lastModified.print ++ "</lastmod>\n<changefreq>".toList
    ++ entry.changeFrequency.code.toList ++ "</changefreq>\n<priority>".toList
    ++ printTenths entry.priority ++ "</priority>\n".toList

/-- What stands in the element of an entry. -/
def content (entry : SitemapEntry) : List Char :=
  ['\n'] ++ (openingTag "loc" ++ (escapeMarkup entry.url.toList ++
    (closingTag "loc" ++ entry.details)))

theorem render_eq (entry : SitemapEntry) :
    entry.render = openingTag "url" ++ (entry.content ++ (closingTag "url" ++ ['\n'])) := by
  have beginning : "<url>\n<loc>".toList = openingTag "url" ++ (['\n'] ++ openingTag "loc") := by
    decide
  have middle : "</loc>\n<lastmod>".toList = closingTag "loc" ++ "\n<lastmod>".toList := by
    decide
  have ending : "</priority>\n</url>\n".toList =
      "</priority>\n".toList ++ (closingTag "url" ++ ['\n']) := by
    decide
  unfold render content details
  rw [beginning, middle, ending]
  simp only [List.append_assoc]

/-- What stands around the values behind the URL. -/
def detailTags : List String :=
  ["\n<lastmod>", "</lastmod>\n<changefreq>", "</changefreq>\n<priority>", "</priority>\n"]

/-- No other tag begins behind the URL. -/
theorem avoids_details {word : List Char}
    (other : ∀ tags ∈ detailTags, Avoids ('<' :: word) tags.toList) (entry : SitemapEntry) :
    Avoids ('<' :: word) entry.details := by
  simp only [detailTags, List.forall_mem_cons] at other
  obtain ⟨beforeDate, beforeFrequency, beforePriority, atEnd, -⟩ := other
  have date : Avoids ('<' :: word) entry.lastModified.print :=
    Avoids.of_not_mem entry.lastModified.sign_not_mem_print
  have frequency : Avoids ('<' :: word) entry.changeFrequency.code.toList :=
    Avoids.of_not_mem entry.changeFrequency.sign_not_mem_code
  have priority : Avoids ('<' :: word) (printTenths entry.priority) :=
    Avoids.of_not_mem (sign_not_mem_printTenths entry.priority)
  exact (((((beforeDate.append date).append beforeFrequency).append frequency).append
    beforePriority).append priority).append atEnd

theorem avoids_escapeMarkup (word : List Char) (entry : SitemapEntry) :
    Avoids ('<' :: word) (escapeMarkup entry.url.toList) :=
  Avoids.of_not_mem (not_mem_escapeMarkup (by decide) (by decide) entry.url.toList)

/-- The closing tag of an entry stands only behind its content. -/
theorem avoids_content (entry : SitemapEntry) : Avoids (closingTag "url") entry.content := by
  have newline : Avoids (closingTag "url") ['\n'] := by decide
  have opened : Avoids (closingTag "url") (openingTag "loc") := by decide
  have closed : Avoids (closingTag "url") (closingTag "loc") := by decide
  have details : Avoids (closingTag "url") entry.details := avoids_details (by decide) entry
  exact newline.append (opened.append ((entry.avoids_escapeMarkup _).append
    (closed.append details)))

/-- An entry is one element, and what stands in it is its content. -/
theorem elementsOf_url_render (entry : SitemapEntry) (rest : List Char) :
    elementsOf "url" (entry.render ++ rest) = entry.content :: elementsOf "url" rest := by
  have newline : Avoids (openingTag "url") ['\n'] := by decide
  calc
    elementsOf "url" (entry.render ++ rest) =
        elementsOf "url" (openingTag "url" ++ (entry.content ++
          (closingTag "url" ++ (['\n'] ++ rest)))) := by
      rw [render_eq]
      simp only [List.append_assoc]
    _ = entry.content :: elementsOf "url" (['\n'] ++ rest) :=
      elementsOf_element entry.avoids_content _
    _ = entry.content :: elementsOf "url" rest := by
      rw [elementsOf_append newline]

/-- The content of an entry holds one location, which is its escaped URL. -/
theorem elementsOf_loc_content (entry : SitemapEntry) (rest : List Char) :
    elementsOf "loc" (entry.content ++ rest) =
      escapeMarkup entry.url.toList :: elementsOf "loc" rest := by
  have newline : Avoids (openingTag "loc") ['\n'] := by decide
  have details : Avoids (openingTag "loc") entry.details := avoids_details (by decide) entry
  calc
    elementsOf "loc" (entry.content ++ rest) =
        elementsOf "loc" (['\n'] ++ (openingTag "loc" ++ (escapeMarkup entry.url.toList ++
          (closingTag "loc" ++ (entry.details ++ rest))))) := by
      rw [content]
      simp only [List.append_assoc]
    _ = escapeMarkup entry.url.toList :: elementsOf "loc" (entry.details ++ rest) := by
      rw [elementsOf_append newline, elementsOf_element (entry.avoids_escapeMarkup _)]
    _ = escapeMarkup entry.url.toList :: elementsOf "loc" rest := by
      rw [elementsOf_append details]

theorem elementsOf_loc_render (entry : SitemapEntry) (rest : List Char) :
    elementsOf "loc" (entry.render ++ rest) =
      escapeMarkup entry.url.toList :: elementsOf "loc" rest := by
  have opened : Avoids (openingTag "loc") (openingTag "url") := by decide
  have closed : Avoids (openingTag "loc") (closingTag "url" ++ ['\n']) := by decide
  rw [render_eq, List.append_assoc, elementsOf_append opened, List.append_assoc,
    elementsOf_loc_content, elementsOf_append closed]

end SitemapEntry

/-! ## The sitemap -/

variable {name : String}

/-- Around its entries the sitemap holds no other element. -/
theorem elementsOf_renderSitemap (inside : SitemapEntry → List Char)
    (opening : Avoids (openingTag name) sitemapOpening)
    (closing : Avoids (openingTag name) sitemapClosing)
    (step : ∀ entry rest, elementsOf name (entry.render ++ rest) =
      inside entry :: elementsOf name rest)
    (entries : List SitemapEntry) :
    elementsOf name (renderSitemap entries) = entries.map inside := by
  rw [renderSitemap, List.append_assoc, elementsOf_append opening, elementsOf_flatMap step,
    elementsOf_of_avoids closing, List.append_nil]

/-- The sitemap is read back: it has one element for each entry, in their order, in each of
them one location stands, and the text of that location is the URL with its reserved
characters escaped.  No location stands elsewhere. -/
theorem renderSitemap_reads_back (entries : List SitemapEntry) :
    (elementsOf "url" (renderSitemap entries)).map
        (fun element => (elementsOf "loc" element).map unescape) =
      entries.map (fun entry => [entry.url.toList]) ∧
    (elementsOf "loc" (renderSitemap entries)).map unescape =
      entries.map (fun entry => entry.url.toList) ∧
    ∀ text : List Char,
      (∀ char ∈ ['<', '>', '"', '\''], char ∉ escapeMarkup text) ∧
        (∀ rest, '&' :: rest <:+ escapeMarkup text → BeginsEntity ('&' :: rest)) ∧
        unescape (escapeMarkup text) = text := by
  have contents : elementsOf "url" (renderSitemap entries) =
      entries.map SitemapEntry.content :=
    elementsOf_renderSitemap _ (by decide +kernel) (by decide)
      SitemapEntry.elementsOf_url_render entries
  have locations : elementsOf "loc" (renderSitemap entries) =
      entries.map fun entry => escapeMarkup entry.url.toList :=
    elementsOf_renderSitemap _ (by decide +kernel) (by decide)
      SitemapEntry.elementsOf_loc_render entries
  have delimiters : ∀ char ∈ ['<', '>', '"', '\''], isMarkup char = true ∧ char ≠ '&' := by
    simp [isMarkup, isReserved]
  refine ⟨?_, ?_, fun text => ⟨fun char delimits => ?_,
    fun rest => beginsEntity_of_suffix_escapeMarkup, unescape_escapeMarkup text⟩⟩
  · rw [contents, List.map_map]
    refine List.map_congr_left fun entry _ => ?_
    have location : elementsOf "loc" entry.content = [escapeMarkup entry.url.toList] := by
      simpa using entry.elementsOf_loc_content []
    rw [Function.comp_apply, location, List.map_singleton, unescape_escapeMarkup]
  · rw [locations, List.map_map]
    exact List.map_congr_left fun entry _ => unescape_escapeMarkup _
  · obtain ⟨reserved, notMark⟩ := delimiters char delimits
    exact not_mem_escapeMarkup reserved notMark text

end PublicSite.Seo
