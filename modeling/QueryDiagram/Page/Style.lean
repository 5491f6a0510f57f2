/-!
The page's stylesheet.

The stylesheet gives the page a dark gradient background, centres the title block, draws the
title in a shining violet gradient, and takes the borders off the text area, the buttons and
the details panel. It also colours the diagram heading and the footer. It is one `style`
element, kept as its lines.
-/

namespace QueryDiagram.Page

/-- The lines of the stylesheet, each without its line break. -/
def styleLines : List String := [
  "",
  "    <style>",
  "    /* Shiny black background */",
  "    .stApp \x7b",
  "        background: linear-gradient(145deg, #0a0a0f 0%, #1a1a24 50%, #0d0d12 100%);",
  "        background-attachment: fixed;",
  "    \x7d",
  "    /* Center title and subtitle with liquid glass Mac feel */",
  "    .main-title-block \x7b",
  "        text-align: center;",
  "        padding: 2rem 0 1.5rem;",
  "        margin-bottom: 1.5rem;",
  "        display: flex;",
  "        flex-direction: column;",
  "        align-items: center;",
  "    \x7d",
  "    .main-title \x7b",
  "        display: block;",
  "        font-family: -apple-system, BlinkMacSystemFont, \x27SF Pro Display\x27, \x27Segoe UI\x27, sans-serif;",
  "        font-size: 2.75rem;",
  "        font-weight: 700;",
  "        background: linear-gradient(110deg, #c4b5fd 0%, #a78bfa 20%, #e9d5ff 40%, #a78bfa 60%, #8b5cf6 80%, #c4b5fd 100%);",
  "        background-size: 300% 100%;",
  "        -webkit-background-clip: text;",
  "        -webkit-text-fill-color: transparent;",
  "        background-clip: text;",
  "        letter-spacing: -0.02em;",
  "        filter: drop-shadow(0 2px 8px rgba(0, 0, 0, 0.5))",
  "                drop-shadow(0 0 24px rgba(139, 92, 246, 0.5))",
  "                drop-shadow(0 0 48px rgba(167, 139, 250, 0.35));",
  "        animation: title-shine 4s ease-in-out infinite;",
  "    \x7d",
  "    @keyframes title-shine \x7b",
  "        0%, 100% \x7b background-position: 0% 50%; \x7d",
  "        50% \x7b background-position: 100% 50%; \x7d",
  "    \x7d",
  "    .main-subtitle \x7b",
  "        display: block;",
  "        text-align: center;",
  "        font-family: -apple-system, BlinkMacSystemFont, \x27SF Pro Text\x27, sans-serif;",
  "        font-size: 0.1rem;",
  "        color: rgba(196, 181, 253, 0.9);",
  "        margin-top: 0.5rem;",
  "        font-weight: 300;",
  "        letter-spacing: 0.01em;",
  "        width: 100%;",
  "    \x7d",
  "    /* SQL Query text area - no borders; label same color as Visualize button (#c4b5fd) */",
  "    .stTextArea label,",
  "    .stTextArea label p,",
  "    [data-testid=\"stTextArea\"] label,",
  "    [data-testid=\"stTextArea\"] label p \x7b",
  "        color: #c4b5fd !important;",
  "    \x7d",
  "    .stTextArea textarea, .stTextArea div \x7b",
  "        background-color: rgba(30, 30, 40, 0.8) !important;",
  "        color: #e2e8f0 !important;",
  "        border-radius: 12px;",
  "        border: none !important;",
  "        box-shadow: none !important;",
  "    \x7d",
  "    .stTextArea textarea:focus \x7b",
  "        border: none !important;",
  "        box-shadow: none !important;",
  "    \x7d",
  "    /* Visualize and Clear buttons - no borders */",
  "    .stButton > button \x7b",
  "        border-radius: 10px;",
  "        border: none !important;",
  "        box-shadow: none !important;",
  "        background: linear-gradient(135deg, rgba(139, 92, 246, 0.2), rgba(167, 139, 250, 0.15));",
  "        color: #c4b5fd;",
  "        font-weight: 500;",
  "    \x7d",
  "    .stButton > button:hover \x7b",
  "        background: linear-gradient(135deg, rgba(139, 92, 246, 0.35), rgba(167, 139, 250, 0.25));",
  "        border: none !important;",
  "        color: #e9d5ff;",
  "    \x7d",
  "    /* Query Details expander - white text, no borders */",
  "    [data-testid=\"stExpander\"] details \x7b",
  "        border: none !important;",
  "        background-color: rgba(30, 30, 40, 0.6) !important;",
  "        border-radius: 12px;",
  "    \x7d",
  "    [data-testid=\"stExpander\"] summary \x7b",
  "        color: rgba(196, 181, 253, 0.95) !important;",
  "        border: none !important;",
  "    \x7d",
  "    [data-testid=\"stExpander\"] div \x7b",
  "        color: #ffffff !important;",
  "        border: none !important;",
  "    \x7d",
  "    [data-testid=\"stExpander\"] pre, [data-testid=\"stExpander\"] code,",
  "    .streamlit-expanderContent pre, .streamlit-expanderContent code,",
  "    .streamlit-expanderContent \x7b",
  "        color: #e2e8f0 !important;",
  "        background: rgba(30, 30, 40, 0.8) !important;",
  "        border: none !important;",
  "    \x7d",
  "    /* Diagram section heading */",
  "    h3 \x7b",
  "        color: rgba(196, 181, 253, 0.95) !important;",
  "        font-weight: 600;",
  "    \x7d",
  "    /* Footer text */",
  "    small \x7b",
  "        color: rgba(148, 163, 184, 0.8) !important;",
  "    \x7d",
  "    hr \x7b",
  "        border-color: rgba(139, 92, 246, 0.2) !important;",
  "    \x7d",
  "    </style>",
  "    "]

/-- The stylesheet: its lines joined by line breaks. -/
def styleSheet : String := "\n".intercalate styleLines

end QueryDiagram.Page
