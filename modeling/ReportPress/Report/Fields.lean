import ReportPress.Record.Field
import ReportPress.Report

/-!
The declared fields of the records of a report, in the order of their declaration.
-/

namespace ReportPress

/-- The declared field of a free-form field. -/
def PageField.field : PageField → Field
  | .reportTitle => ⟨"report_title", "reportTitle"⟩
  | .title => ⟨"title", "title"⟩
  | .reportSubTitle => ⟨"report_sub_title", "reportSubTitle"⟩
  | .reportType => ⟨"report_type", "reportType"⟩
  | .reportDate => ⟨"report_date", "reportDate"⟩
  | .companyName => ⟨"company_name", "companyName"⟩
  | .sectorName => ⟨"sector_name", "sectorName"⟩
  | .bloombergCode => ⟨"bloomberg_code", "bloombergCode"⟩
  | .rating => ⟨"rating", "rating"⟩
  | .previousRating => ⟨"previous_rating", "previousRating"⟩
  | .targetPrice => ⟨"target_price", "targetPrice"⟩
  | .marketPrice => ⟨"market_price", "marketPrice"⟩
  | .upsideDownside => ⟨"upside_downside", "upsideDownside"⟩

namespace Author

def nameField : Field := ⟨"name", "name"⟩
def emailField : Field := ⟨"email", "email"⟩
def phoneField : Field := ⟨"phone", "phone"⟩

def fields : List Field := [nameField, emailField, phoneField]

end Author

namespace SummaryParagraph

def headingField : Field := ⟨"heading", "heading"⟩
def contentField : Field := ⟨"content", "content"⟩

def fields : List Field := [headingField, contentField]

end SummaryParagraph

namespace FirstPage

def authorsField : Field := ⟨"authors", "authors"⟩
def bulletPointsField : Field := ⟨"bullet_points", "bulletPoints"⟩
def summaryParagraphsField : Field := ⟨"summary_paragraphs", "summaryParagraphs"⟩

def fields : List Field :=
  PageField.all.map PageField.field ++ [authorsField, bulletPointsField, summaryParagraphsField]

end FirstPage

namespace TableData

def headersField : Field := ⟨"headers", "headers"⟩
def rowsField : Field := ⟨"rows", "rows"⟩

def fields : List Field := [headersField, rowsField]

end TableData

namespace ContentBlock

def styleField : Field := ⟨"style", "style"⟩
def textField : Field := ⟨"text", "text"⟩
def tableField : Field := ⟨"table", "table"⟩
def pageNumberField : Field := ⟨"page_number", "pageNumber"⟩

def fields : List Field := [styleField, textField, tableField, pageNumberField]

end ContentBlock

namespace Report

def firstPageField : Field := ⟨"first_page", "firstPage"⟩
def innerPagesParagraphsField : Field := ⟨"inner_pages_paragraphs", "innerPagesParagraphs"⟩

def fields : List Field := [firstPageField, innerPagesParagraphsField]

end Report

end ReportPress
