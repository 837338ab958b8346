import ReceiptRules.Text.CharacterName.Naming

/-!
# Names of symbols

The characters from 0x2000 to 0x2bff: punctuation, currencies, arrows, operators and shapes.
-/

namespace ReceiptRules.Text.CharacterName

def operators : List Family := [
  ⟨"", [
    (0x2000, "EN QUAD;EM QUAD;EN SPACE;EM SPACE;THREE-PER-EM SPACE;FOUR-PER-EM SPACE"),
    (0x2006, "SIX-PER-EM SPACE;FIGURE SPACE;PUNCTUATION SPACE;THIN SPACE;HAIR SPACE"),
    (0x200b, "ZERO WIDTH SPACE;ZERO WIDTH NON-JOINER;ZERO WIDTH JOINER;;;HYPHEN"),
    (0x2011, "NON-BREAKING HYPHEN;FIGURE DASH;EN DASH;EM DASH;HORIZONTAL BAR"),
    (0x2020, "DAGGER;;BULLET;TRIANGULAR BULLET;ONE DOT LEADER;TWO DOT LEADER"),
    (0x2026, "HORIZONTAL ELLIPSIS;HYPHENATION POINT;LINE SEPARATOR;PARAGRAPH SEPARATOR"),
    (0x202c, "POP DIRECTIONAL FORMATTING;;;NARROW NO-BREAK SPACE;PER MILLE SIGN"),
    (0x2031, "PER TEN THOUSAND SIGN;PRIME;;;;;;CARET;;;REFERENCE MARK;;INTERROBANG;OVERLINE"),
    (0x203f, "UNDERTIE;CHARACTER TIE;CARET INSERTION POINT;ASTERISM;HYPHEN BULLET"),
    (0x2044, "FRACTION SLASH;;;;QUESTION EXCLAMATION MARK;EXCLAMATION QUESTION MARK"),
    (0x204a, "TIRONIAN SIGN ET;;BLACK LEFTWARDS BULLET;BLACK RIGHTWARDS BULLET;LOW ASTERISK"),
    (0x2050, "CLOSE UP;TWO ASTERISKS ALIGNED VERTICALLY;COMMERCIAL MINUS SIGN;SWUNG DASH"),
    (0x2055, "FLOWER PUNCTUATION MARK;THREE DOT PUNCTUATION;QUADRUPLE PRIME"),
    (0x2058, "FOUR DOT PUNCTUATION;FIVE DOT PUNCTUATION;TWO DOT PUNCTUATION;FOUR DOT MARK"),
    (0x205c, "DOTTED CROSS;TRICOLON;VERTICAL FOUR DOTS;MEDIUM MATHEMATICAL SPACE;WORD JOINER"),
    (0x2061, "FUNCTION APPLICATION;;;;;;;FIRST STRONG ISOLATE;POP DIRECTIONAL ISOLATE"),
    (0x206a, "INHIBIT SYMMETRIC SWAPPING;ACTIVATE SYMMETRIC SWAPPING"),
    (0x206c, "INHIBIT ARABIC FORM SHAPING;ACTIVATE ARABIC FORM SHAPING;NATIONAL DIGIT SHAPES"),
    (0x206f, "NOMINAL DIGIT SHAPES"), (0x20a0, "EURO-CURRENCY SIGN;COLON SIGN;CRUZEIRO SIGN"),
    (0x20a3, "FRENCH FRANC SIGN;LIRA SIGN;MILL SIGN;NAIRA SIGN;PESETA SIGN;RUPEE SIGN;WON SIGN"),
    (0x20aa, "NEW SHEQEL SIGN;DONG SIGN;EURO SIGN;KIP SIGN;TUGRIK SIGN;DRACHMA SIGN"),
    (0x20b0, "GERMAN PENNY SIGN;PESO SIGN;GUARANI SIGN;AUSTRAL SIGN;HRYVNIA SIGN;CEDI SIGN"),
    (0x20b6, "LIVRE TOURNOIS SIGN;SPESMILO SIGN;TENGE SIGN;INDIAN RUPEE SIGN;TURKISH LIRA SIGN"),
    (0x20bb, "NORDIC MARK SIGN;MANAT SIGN;RUBLE SIGN;LARI SIGN;BITCOIN SIGN;SOM SIGN"),
    (0x2100, "ACCOUNT OF;ADDRESSED TO THE SUBJECT;;DEGREE CELSIUS;CENTRE LINE SYMBOL;CARE OF"),
    (0x2106, "CADA UNA;EULER CONSTANT;SCRUPLE;DEGREE FAHRENHEIT;;;;;PLANCK CONSTANT"),
    (0x210f, "PLANCK CONSTANT OVER TWO PI;;;;;L B BAR SYMBOL;;NUMERO SIGN"),
    (0x2117, "SOUND RECORDING COPYRIGHT;;;;;;;PRESCRIPTION TAKE;RESPONSE;SERVICE MARK"),
    (0x2121, "TELEPHONE SIGN;TRADE MARK SIGN;VERSICLE;;OUNCE SIGN;OHM SIGN;;;;KELVIN SIGN"),
    (0x212b, "ANGSTROM SIGN;;;ESTIMATED SYMBOL;;;;;;;ALEF SYMBOL;BET SYMBOL;GIMEL SYMBOL"),
    (0x2138, "DALET SYMBOL;INFORMATION SOURCE;ROTATED CAPITAL Q;FACSIMILE SIGN"),
    (0x214a, "PROPERTY LINE;;PER SIGN;AKTIESELSKAB;;SYMBOL FOR SAMARITAN SOURCE"),
    (0x215f, "FRACTION NUMERATOR ONE"), (0x21f6, "THREE RIGHTWARDS ARROWS"), (0x2200, "FOR ALL"),
    (0x2201, "COMPLEMENT;PARTIAL DIFFERENTIAL;THERE EXISTS;THERE DOES NOT EXIST;EMPTY SET"),
    (0x2206, "INCREMENT;NABLA;;;;;;;END OF PROOF;;;;MINUS SIGN;MINUS-OR-PLUS SIGN;DOT PLUS"),
    (0x2215, "DIVISION SLASH;SET MINUS;ASTERISK OPERATOR;RING OPERATOR;BULLET OPERATOR"),
    (0x221b, "CUBE ROOT;FOURTH ROOT;PROPORTIONAL TO;INFINITY;;ANGLE;MEASURED ANGLE"),
    (0x2222, "SPHERICAL ANGLE;DIVIDES;;PARALLEL TO;;LOGICAL AND;LOGICAL OR;INTERSECTION;UNION"),
    (0x222b, "INTEGRAL;;;CONTOUR INTEGRAL;SURFACE INTEGRAL;VOLUME INTEGRAL;;;;THEREFORE;BECAUSE"),
    (0x2236, "RATIO;PROPORTION;DOT MINUS;EXCESS;GEOMETRIC PROPORTION;HOMOTHETIC;TILDE OPERATOR"),
    (0x223f, "SINE WAVE;WREATH PRODUCT;;MINUS TILDE;ASYMPTOTICALLY EQUAL TO;;;;;ALMOST EQUAL TO"),
    (0x224a, "ALMOST EQUAL OR EQUAL TO;;ALL EQUAL TO;EQUIVALENT TO;;DIFFERENCE BETWEEN"),
    (0x2250, "APPROACHES THE LIMIT;;;IMAGE OF OR APPROXIMATELY EQUAL TO;COLON EQUALS"),
    (0x2255, "EQUALS COLON;RING IN EQUAL TO;RING EQUAL TO;CORRESPONDS TO;ESTIMATES"),
    (0x225a, "EQUIANGULAR TO;STAR EQUALS;DELTA EQUAL TO;;MEASURED BY;QUESTIONED EQUAL TO"),
    (0x2261, "IDENTICAL TO;;STRICTLY EQUIVALENT TO;;;;;;;MUCH LESS-THAN;MUCH GREATER-THAN"),
    (0x226c, "BETWEEN"), (0x227a, "PRECEDES;SUCCEEDS"), (0x228c, "MULTISET"),
    (0x228d, "MULTISET MULTIPLICATION;MULTISET UNION"), (0x22a4, "DOWN TACK;;ASSERTION;MODELS"),
    (0x22a8, "TRUE;FORCES;;;;;;NEGATED DOUBLE VERTICAL BAR DOUBLE RIGHT TURNSTILE"),
    (0x22b2, "NORMAL SUBGROUP OF;;NORMAL SUBGROUP OF OR EQUAL TO;;ORIGINAL OF;IMAGE OF;MULTIMAP"),
    (0x22b9, "HERMITIAN CONJUGATE MATRIX;INTERCALATE;XOR;NAND;NOR;;;;;;;DIAMOND OPERATOR"),
    (0x22c5, "DOT OPERATOR;STAR OPERATOR;DIVISION TIMES;BOWTIE;;;;;;CURLY LOGICAL OR"),
    (0x22cf, "CURLY LOGICAL AND;;;;;PITCHFORK;;;;VERY MUCH LESS-THAN;VERY MUCH GREATER-THAN"),
    (0x22ee, "VERTICAL ELLIPSIS;MIDLINE HORIZONTAL ELLIPSIS;;DOWN RIGHT DIAGONAL ELLIPSIS"),
    (0x22ff, "Z NOTATION BAG MEMBERSHIP")]⟩,
  ⟨"LEFT-TO-RIGHT ", [(0x200e, "MARK"), (0x202a, "EMBEDDING;;;OVERRIDE"), (0x2066, "ISOLATE")]⟩,
  ⟨"RIGHT-TO-LEFT ", [(0x200f, "MARK"), (0x202b, "EMBEDDING;;;OVERRIDE"), (0x2067, "ISOLATE")]⟩,
  ⟨"DOUBLE ", [
    (0x2016, "VERTICAL LINE;LOW LINE;;;;;;;LOW-9 QUOTATION MARK;HIGH-REVERSED-9 QUOTATION MARK"),
    (0x2021, "DAGGER"), (0x2033, "PRIME"), (0x203c, "EXCLAMATION MARK"),
    (0x2047, "QUESTION MARK"), (0x222c, "INTEGRAL"),
    (0x22ab, "VERTICAL BAR DOUBLE RIGHT TURNSTILE"), (0x22d0, "SUBSET;SUPERSET;INTERSECTION"),
    (0x22d3, "UNION")]⟩,
  ⟨"LEFT ", [
    (0x2018, "SINGLE QUOTATION MARK;;;;DOUBLE QUOTATION MARK"),
    (0x2045, "SQUARE BRACKET WITH QUILL"), (0x22a3, "TACK"),
    (0x22c9, "NORMAL FACTOR SEMIDIRECT PRODUCT;;SEMIDIRECT PRODUCT")]⟩,
  ⟨"RIGHT ", [
    (0x2019, "SINGLE QUOTATION MARK;;;;DOUBLE QUOTATION MARK"),
    (0x2046, "SQUARE BRACKET WITH QUILL"), (0x21f4, "ARROW WITH SMALL CIRCLE"), (0x221f, "ANGLE"),
    (0x22a2, "TACK"), (0x22be, "ANGLE WITH ARC;TRIANGLE"),
    (0x22ca, "NORMAL FACTOR SEMIDIRECT PRODUCT;;SEMIDIRECT PRODUCT")]⟩,
  ⟨"SINGLE ", [
    (0x201a, "LOW-9 QUOTATION MARK;HIGH-REVERSED-9 QUOTATION MARK"),
    (0x2039, "LEFT-POINTING ANGLE QUOTATION MARK;RIGHT-POINTING ANGLE QUOTATION MARK")]⟩,
  ⟨"TRIPLE ", [
    (0x2034, "PRIME"), (0x222d, "INTEGRAL"), (0x224b, "TILDE"),
    (0x22aa, "VERTICAL BAR RIGHT TURNSTILE")]⟩,
  ⟨"REVERSED ", [
    (0x2035, "PRIME;DOUBLE PRIME;TRIPLE PRIME"), (0x204b, "PILCROW SIGN;;;;SEMICOLON"),
    (0x2143, "SANS-SERIF CAPITAL L"), (0x223d, "TILDE"), (0x22cd, "TILDE EQUALS")]⟩,
  ⟨"INVERTED ", [(0x2054, "UNDERTIE"), (0x2127, "OHM SIGN"), (0x223e, "LAZY S")]⟩,
  ⟨"INVISIBLE ", [(0x2062, "TIMES;SEPARATOR;PLUS")]⟩,
  ⟨"SUPERSCRIPT ", [
    (0x2070, "ZERO;LATIN SMALL LETTER I;;;FOUR;FIVE;SIX;SEVEN;EIGHT;NINE;PLUS SIGN;MINUS"),
    (0x207c, "EQUALS SIGN;LEFT PARENTHESIS;RIGHT PARENTHESIS;LATIN SMALL LETTER N")]⟩,
  ⟨"SUBSCRIPT ", [
    (0x2080, "ZERO;ONE;TWO;THREE;FOUR;FIVE;SIX;SEVEN;EIGHT;NINE;PLUS SIGN;MINUS;EQUALS SIGN"),
    (0x208d, "LEFT PARENTHESIS;RIGHT PARENTHESIS")]⟩,
  ⟨"LATIN SUBSCRIPT SMALL LETTER ", [(0x2090, "A;E;O;X;SCHWA;H;K;L;M;N;P;S;T")]⟩,
  ⟨"COMBINING ", [
    (0x20d0, "LEFT HARPOON ABOVE;RIGHT HARPOON ABOVE;LONG VERTICAL LINE OVERLAY"),
    (0x20d3, "SHORT VERTICAL LINE OVERLAY;ANTICLOCKWISE ARROW ABOVE;CLOCKWISE ARROW ABOVE"),
    (0x20d6, "LEFT ARROW ABOVE;RIGHT ARROW ABOVE;RING OVERLAY;CLOCKWISE RING OVERLAY"),
    (0x20da, "ANTICLOCKWISE RING OVERLAY;THREE DOTS ABOVE;FOUR DOTS ABOVE"),
    (0x20e1, "LEFT RIGHT ARROW ABOVE;;;;REVERSE SOLIDUS OVERLAY;DOUBLE VERTICAL STROKE OVERLAY"),
    (0x20e7, "ANNUITY SYMBOL;TRIPLE UNDERDOT;WIDE BRIDGE ABOVE;LEFTWARDS ARROW OVERLAY"),
    (0x20eb, "LONG DOUBLE SOLIDUS OVERLAY;RIGHTWARDS HARPOON WITH BARB DOWNWARDS"),
    (0x20ed, "LEFTWARDS HARPOON WITH BARB DOWNWARDS;LEFT ARROW BELOW;RIGHT ARROW BELOW"),
    (0x20f0, "ASTERISK ABOVE")]⟩,
  ⟨"COMBINING ENCLOSING ", [
    (0x20dd, "CIRCLE;SQUARE;DIAMOND;CIRCLE BACKSLASH;;SCREEN;KEYCAP;UPWARD POINTING TRIANGLE")]⟩,
  ⟨"DOUBLE-STRUCK CAPITAL ", [
    (0x2102, "C"), (0x210d, "H;;;;;;;;N;;;;P;Q;;;R;;;;;;;Z"), (0x213e, "GAMMA;PI")]⟩,
  ⟨"SCRIPT ", [(0x210a, "SMALL G"), (0x2113, "SMALL L"), (0x212f, "SMALL E;;;;;SMALL O")]⟩,
  ⟨"SCRIPT CAPITAL ", [(0x210b, "H;;;;;I;;L;;;;;;P;;;R"), (0x212c, "B;;;;E;F;;M")]⟩,
  ⟨"BLACK-LETTER CAPITAL ", [(0x210c, "H;;;;;I"), (0x211c, "R"), (0x2128, "Z;;;;;C")]⟩,
  ⟨"TURNED ", [
    (0x2129, "GREEK SMALL LETTER IOTA"), (0x2132, "CAPITAL F"), (0x214b, "AMPERSAND;;;SMALL F"),
    (0x218a, "DIGIT TWO;DIGIT THREE")]⟩,
  ⟨"DOUBLE-STRUCK ", [(0x213c, "SMALL PI;SMALL GAMMA;;;N-ARY SUMMATION")]⟩,
  ⟨"TURNED SANS-SERIF ", [(0x2141, "CAPITAL G;CAPITAL L;;CAPITAL Y")]⟩,
  ⟨"DOUBLE-STRUCK ITALIC ", [(0x2145, "CAPITAL D;SMALL D;SMALL E;SMALL I;SMALL J")]⟩,
  ⟨"VULGAR FRACTION ", [
    (0x2150, "ONE SEVENTH;ONE NINTH;ONE TENTH;ONE THIRD;TWO THIRDS;ONE FIFTH;TWO FIFTHS"),
    (0x2157, "THREE FIFTHS;FOUR FIFTHS;ONE SIXTH;FIVE SIXTHS;ONE EIGHTH;THREE EIGHTHS"),
    (0x215d, "FIVE EIGHTHS;SEVEN EIGHTHS"), (0x2189, "ZERO THIRDS")]⟩,
  ⟨"ROMAN NUMERAL ", [
    (0x2160, "ONE;TWO;THREE;FOUR;FIVE;SIX;SEVEN;EIGHT;NINE;TEN;ELEVEN;TWELVE;FIFTY;ONE HUNDRED"),
    (0x216e, "FIVE HUNDRED;ONE THOUSAND"), (0x2180, "ONE THOUSAND C D;FIVE THOUSAND"),
    (0x2182, "TEN THOUSAND;REVERSED ONE HUNDRED;;SIX LATE FORM;FIFTY EARLY FORM;FIFTY THOUSAND"),
    (0x2188, "ONE HUNDRED THOUSAND")]⟩,
  ⟨"SMALL ROMAN NUMERAL ", [
    (0x2170, "ONE;TWO;THREE;FOUR;FIVE;SIX;SEVEN;EIGHT;NINE;TEN;ELEVEN;TWELVE;FIFTY;ONE HUNDRED"),
    (0x217e, "FIVE HUNDRED;ONE THOUSAND")]⟩,
  ⟨"LATIN ", [(0x2184, "SMALL LETTER REVERSED C")]⟩,
  ⟨"LEFTWARDS ", [
    (0x2190, "ARROW"), (0x219c, "WAVE ARROW;;TWO HEADED ARROW"),
    (0x21bc, "HARPOON WITH BARB UPWARDS;HARPOON WITH BARB DOWNWARDS"), (0x21c7, "PAIRED ARROWS"),
    (0x21cb, "HARPOON OVER RIGHTWARDS HARPOON;;DOUBLE ARROW WITH STROKE;;;DOUBLE ARROW"),
    (0x21da, "TRIPLE ARROW;;SQUIGGLE ARROW;;;;DASHED ARROW;;;;;;WHITE ARROW"),
    (0x21fd, "OPEN-HEADED ARROW")]⟩,
  ⟨"UPWARDS ", [
    (0x2191, "ARROW"), (0x219f, "TWO HEADED ARROW"), (0x21be, "HARPOON WITH BARB RIGHTWARDS"),
    (0x21bf, "HARPOON WITH BARB LEFTWARDS"), (0x21c8, "PAIRED ARROWS"), (0x21d1, "DOUBLE ARROW"),
    (0x21e1, "DASHED ARROW")]⟩,
  ⟨"RIGHTWARDS ", [
    (0x2192, "ARROW"), (0x219d, "WAVE ARROW;;;TWO HEADED ARROW"),
    (0x21c0, "HARPOON WITH BARB UPWARDS;HARPOON WITH BARB DOWNWARDS;;;;;;;;PAIRED ARROWS"),
    (0x21cc, "HARPOON OVER LEFTWARDS HARPOON;;;DOUBLE ARROW WITH STROKE;;;DOUBLE ARROW"),
    (0x21db, "TRIPLE ARROW;;SQUIGGLE ARROW;;;;;DASHED ARROW;;;;;;WHITE ARROW"),
    (0x21f0, "WHITE ARROW FROM WALL"), (0x21fe, "OPEN-HEADED ARROW")]⟩,
  ⟨"DOWNWARDS ", [
    (0x2193, "ARROW"), (0x21a1, "TWO HEADED ARROW"), (0x21af, "ZIGZAG ARROW"),
    (0x21c2, "HARPOON WITH BARB RIGHTWARDS;HARPOON WITH BARB LEFTWARDS;;;;;;;PAIRED ARROWS"),
    (0x21d3, "DOUBLE ARROW"), (0x21e3, "DASHED ARROW;;;;;;WHITE ARROW")]⟩,
  ⟨"LEFT RIGHT ", [
    (0x2194, "ARROW"), (0x21ad, "WAVE ARROW;ARROW WITH STROKE"),
    (0x21ce, "DOUBLE ARROW WITH STROKE;;;;;;DOUBLE ARROW"),
    (0x21f9, "ARROW WITH VERTICAL STROKE;;;ARROW WITH DOUBLE VERTICAL STROKE"),
    (0x21ff, "OPEN-HEADED ARROW")]⟩,
  ⟨"UP DOWN ", [
    (0x2195, "ARROW"), (0x21a8, "ARROW WITH BASE"), (0x21d5, "DOUBLE ARROW"),
    (0x21f3, "WHITE ARROW")]⟩,
  ⟨"NORTH ", [
    (0x2196, "WEST ARROW;EAST ARROW"), (0x21b8, "WEST ARROW TO LONG BAR"),
    (0x21d6, "WEST DOUBLE ARROW;EAST DOUBLE ARROW"), (0x21f1, "WEST ARROW TO CORNER")]⟩,
  ⟨"SOUTH ", [
    (0x2198, "EAST ARROW;WEST ARROW"), (0x21d8, "EAST DOUBLE ARROW;WEST DOUBLE ARROW"),
    (0x21f2, "EAST ARROW TO CORNER")]⟩,
  ⟨"LEFTWARDS ARROW ", [
    (0x219a, "WITH STROKE;;;;;;;;WITH TAIL;;FROM BAR;;;;;WITH HOOK;;WITH LOOP"),
    (0x21b9, "TO BAR OVER RIGHTWARDS ARROW TO BAR"), (0x21c6, "OVER RIGHTWARDS ARROW"),
    (0x21e4, "TO BAR"), (0x21f7, "WITH VERTICAL STROKE;;;WITH DOUBLE VERTICAL STROKE")]⟩,
  ⟨"RIGHTWARDS ARROW WITH ", [
    (0x219b, "STROKE;;;;;;;;TAIL;;;;;;;HOOK;;LOOP;;;;;;;;CORNER DOWNWARDS"),
    (0x21f8, "VERTICAL STROKE;;;DOUBLE VERTICAL STROKE")]⟩,
  ⟨"UPWARDS ARROW ", [
    (0x21a5, "FROM BAR"), (0x21b0, "WITH TIP LEFTWARDS;WITH TIP RIGHTWARDS"),
    (0x21c5, "LEFTWARDS OF DOWNWARDS ARROW"), (0x21de, "WITH DOUBLE STROKE")]⟩,
  ⟨"RIGHTWARDS ARROW ", [
    (0x21a6, "FROM BAR"), (0x21c4, "OVER LEFTWARDS ARROW"), (0x21e5, "TO BAR")]⟩,
  ⟨"DOWNWARDS ARROW ", [
    (0x21a7, "FROM BAR"), (0x21b2, "WITH TIP LEFTWARDS;WITH TIP RIGHTWARDS"),
    (0x21b5, "WITH CORNER LEFTWARDS"), (0x21df, "WITH DOUBLE STROKE"),
    (0x21f5, "LEFTWARDS OF UPWARDS ARROW")]⟩,
  ⟨"ANTICLOCKWISE ", [
    (0x21b6, "TOP SEMICIRCLE ARROW;;;;OPEN CIRCLE ARROW"), (0x2233, "CONTOUR INTEGRAL")]⟩,
  ⟨"CLOCKWISE ", [
    (0x21b7, "TOP SEMICIRCLE ARROW;;;;OPEN CIRCLE ARROW"), (0x2231, "INTEGRAL;CONTOUR INTEGRAL")]⟩,
  ⟨"UPWARDS WHITE ", [
    (0x21e7, "ARROW;;;ARROW FROM BAR;ARROW ON PEDESTAL;ARROW ON PEDESTAL WITH HORIZONTAL BAR"),
    (0x21ed, "ARROW ON PEDESTAL WITH VERTICAL BAR;DOUBLE ARROW;DOUBLE ARROW ON PEDESTAL")]⟩,
  ⟨"ELEMENT ", [(0x2208, "OF")]⟩,
  ⟨"NOT ", [
    (0x2209, "AN ELEMENT OF"), (0x2226, "PARALLEL TO"), (0x2241, "TILDE"),
    (0x2244, "ASYMPTOTICALLY EQUAL TO;;;;;ALMOST EQUAL TO"), (0x2260, "EQUAL TO;;IDENTICAL TO"),
    (0x226d, "EQUIVALENT TO;LESS-THAN;GREATER-THAN"), (0x2284, "A SUBSET OF;A SUPERSET OF"),
    (0x22ad, "TRUE"), (0x22e2, "SQUARE IMAGE OF OR EQUAL TO;SQUARE ORIGINAL OF OR EQUAL TO"),
    (0x22ea, "NORMAL SUBGROUP OF;;NORMAL SUBGROUP OF OR EQUAL TO")]⟩,
  ⟨"SMALL ", [
    (0x220a, "ELEMENT OF"), (0x22f4, "ELEMENT OF WITH VERTICAL BAR AT END OF HORIZONTAL STROKE"),
    (0x22f7, "ELEMENT OF WITH OVERBAR")]⟩,
  ⟨"CONTAINS ", [
    (0x220b, "AS MEMBER"), (0x22b3, "AS NORMAL SUBGROUP;;AS NORMAL SUBGROUP OR EQUAL TO"),
    (0x22fa, "WITH LONG HORIZONTAL STROKE;WITH VERTICAL BAR AT END OF HORIZONTAL STROKE"),
    (0x22fd, "WITH OVERBAR")]⟩,
  ⟨"DOES NOT ", [
    (0x220c, "CONTAIN AS MEMBER"), (0x2224, "DIVIDE"), (0x2280, "PRECEDE;SUCCEED"),
    (0x22ac, "PROVE;;FORCE"), (0x22e0, "PRECEDE OR EQUAL;SUCCEED OR EQUAL"),
    (0x22eb, "CONTAIN AS NORMAL SUBGROUP;;CONTAIN AS NORMAL SUBGROUP OR EQUAL")]⟩,
  ⟨"SMALL CONTAINS ", [
    (0x220d, "AS MEMBER"), (0x22fc, "WITH VERTICAL BAR AT END OF HORIZONTAL STROKE"),
    (0x22fe, "WITH OVERBAR")]⟩,
  ⟨"N-ARY ", [
    (0x220f, "PRODUCT;COPRODUCT;SUMMATION"), (0x22c0, "LOGICAL AND;LOGICAL OR;INTERSECTION"),
    (0x22c3, "UNION")]⟩,
  ⟨"SQUARE ", [
    (0x221a, "ROOT"), (0x228f, "IMAGE OF;ORIGINAL OF;IMAGE OF OR EQUAL TO"),
    (0x2292, "ORIGINAL OF OR EQUAL TO;CAP;CUP"), (0x22e4, "IMAGE OF OR NOT EQUAL TO"),
    (0x22e5, "ORIGINAL OF OR NOT EQUAL TO")]⟩,
  ⟨"APPROXIMATELY ", [
    (0x2245, "EQUAL TO;BUT NOT ACTUALLY EQUAL TO"), (0x2252, "EQUAL TO OR THE IMAGE OF")]⟩,
  ⟨"NEITHER ", [
    (0x2247, "APPROXIMATELY NOR ACTUALLY EQUAL TO"), (0x2288, "A SUBSET OF NOR EQUAL TO"),
    (0x2289, "A SUPERSET OF NOR EQUAL TO")]⟩,
  ⟨"GEOMETRICALLY ", [(0x224e, "EQUIVALENT TO;;;EQUAL TO")]⟩,
  ⟨"EQUAL ", [
    (0x225d, "TO BY DEFINITION"), (0x22d5, "AND PARALLEL TO;;;;;;;TO OR LESS-THAN"),
    (0x22dd, "TO OR GREATER-THAN;TO OR PRECEDES;TO OR SUCCEEDS")]⟩,
  ⟨"LESS-THAN ", [
    (0x2264, "OR EQUAL TO;;OVER EQUAL TO;;BUT NOT EQUAL TO"), (0x2272, "OR EQUIVALENT TO"),
    (0x2276, "OR GREATER-THAN"), (0x22d6, "WITH DOT;;;;EQUAL TO OR GREATER-THAN"),
    (0x22e6, "BUT NOT EQUIVALENT TO")]⟩,
  ⟨"GREATER-THAN ", [
    (0x2265, "OR EQUAL TO;;OVER EQUAL TO;;BUT NOT EQUAL TO"), (0x2273, "OR EQUIVALENT TO"),
    (0x2277, "OR LESS-THAN"), (0x22d7, "WITH DOT;;;;EQUAL TO OR LESS-THAN"),
    (0x22e7, "BUT NOT EQUIVALENT TO")]⟩,
  ⟨"NEITHER LESS-THAN ", [(0x2270, "NOR EQUAL TO;;;;NOR EQUIVALENT TO;;;;NOR GREATER-THAN")]⟩,
  ⟨"NEITHER GREATER-THAN ", [(0x2271, "NOR EQUAL TO;;;;NOR EQUIVALENT TO;;;;NOR LESS-THAN")]⟩,
  ⟨"PRECEDES ", [
    (0x227c, "OR EQUAL TO;;OR EQUIVALENT TO"), (0x22b0, "UNDER RELATION"),
    (0x22e8, "BUT NOT EQUIVALENT TO")]⟩,
  ⟨"SUCCEEDS ", [
    (0x227d, "OR EQUAL TO;;OR EQUIVALENT TO"), (0x22b1, "UNDER RELATION"),
    (0x22e9, "BUT NOT EQUIVALENT TO")]⟩,
  ⟨"SUBSET ", [(0x2282, "OF;;;;OF OR EQUAL TO;;;;OF WITH NOT EQUAL TO")]⟩,
  ⟨"SUPERSET ", [(0x2283, "OF;;;;OF OR EQUAL TO;;;;OF WITH NOT EQUAL TO")]⟩,
  ⟨"CIRCLED ", [
    (0x2295, "PLUS;MINUS;TIMES;DIVISION SLASH;DOT OPERATOR;RING OPERATOR;ASTERISK OPERATOR"),
    (0x229c, "EQUALS;DASH")]⟩,
  ⟨"SQUARED ", [(0x229e, "PLUS;MINUS;TIMES;DOT OPERATOR")]⟩,
  ⟨"UP ", [(0x22a5, "TACK"), (0x22f0, "RIGHT DIAGONAL ELLIPSIS")]⟩,
  ⟨"ELEMENT OF WITH ", [
    (0x22f2, "LONG HORIZONTAL STROKE;VERTICAL BAR AT END OF HORIZONTAL STROKE;;DOT ABOVE"),
    (0x22f6, "OVERBAR;;UNDERBAR;TWO HORIZONTAL STROKES")]⟩]

def shapes : List Family := [
  ⟨"", [
    (0x2300, "DIAMETER SIGN;ELECTRIC ARROW;HOUSE;;DOWN ARROWHEAD;PROJECTIVE;PERSPECTIVE"),
    (0x2307, "WAVY LINE"), (0x2312, "ARC;SEGMENT;SECTOR;TELEPHONE RECORDER;POSITION INDICATOR"),
    (0x2317, "VIEWDATA SQUARE;PLACE OF INTEREST SIGN;;WATCH;HOURGLASS;;;;;;;FROWN;SMILE"),
    (0x2325, "OPTION KEY;ERASE TO THE RIGHT;X IN A RECTANGLE BOX;KEYBOARD;;;ERASE TO THE LEFT"),
    (0x232c, "BENZENE RING;CYLINDRICITY;ALL AROUND-PROFILE;SYMMETRY;TOTAL RUNOUT"),
    (0x2331, "DIMENSION ORIGIN;CONICAL TAPER;SLOPE;COUNTERBORE;COUNTERSINK"),
    (0x237b, "NOT CHECK MARK;;SHOULDERED OPEN BOX;BELL SYMBOL;;INSERTION SYMBOL"),
    (0x2381, "CONTINUOUS UNDERLINE SYMBOL;DISCONTINUOUS UNDERLINE SYMBOL;EMPHASIS SYMBOL"),
    (0x2384, "COMPOSITION SYMBOL;;ENTER SYMBOL;ALTERNATIVE KEY SYMBOL;HELM SYMBOL"),
    (0x238b, "BROKEN CIRCLE WITH NORTHWEST ARROW;UNDO SYMBOL;MONOSTABLE SYMBOL"),
    (0x238e, "HYSTERESIS SYMBOL;;;PASSIVE-PULL-DOWN-OUTPUT SYMBOL;PASSIVE-PULL-UP-OUTPUT SYMBOL"),
    (0x2393, "DIRECT CURRENT SYMBOL FORM TWO;SOFTWARE-FUNCTION SYMBOL"),
    (0x2396, "DECIMAL SEPARATOR KEY SYMBOL;PREVIOUS PAGE;NEXT PAGE;PRINT SCREEN SYMBOL"),
    (0x239a, "CLEAR SCREEN SYMBOL"), (0x23aa, "CURLY BRACKET EXTENSION"),
    (0x23b7, "RADICAL SYMBOL BOTTOM"), (0x23cf, "EJECT SYMBOL"), (0x23da, "EARTH GROUND;FUSE"),
    (0x23e3, "BENZENE RING WITH CIRCLE;STRAIGHTNESS;FLATNESS;AC CURRENT;ELECTRICAL INTERSECTION"),
    (0x23e8, "DECIMAL EXPONENT SYMBOL;;;;;;;;ALARM CLOCK;STOPWATCH;TIMER CLOCK"),
    (0x23f3, "HOURGLASS WITH FLOWING SAND"), (0x23ff, "OBSERVER EYE SYMBOL"),
    (0x2422, "BLANK SYMBOL"), (0x2588, "FULL BLOCK"), (0x2593, "DARK SHADE"), (0x25c9, "FISHEYE"),
    (0x25ca, "LOZENGE;;;;BULLSEYE"), (0x25d8, "INVERSE BULLET;INVERSE WHITE CIRCLE"),
    (0x2601, "CLOUD;UMBRELLA;SNOWMAN;COMET;;;LIGHTNING;THUNDERSTORM;SUN;ASCENDING NODE"),
    (0x260b, "DESCENDING NODE;CONJUNCTION;OPPOSITION;;;;;;SALTIRE;UMBRELLA WITH RAIN DROPS"),
    (0x2615, "HOT BEVERAGE;;;SHAMROCK;;;;;;;;SKULL AND CROSSBONES;CAUTION SIGN;RADIOACTIVE SIGN"),
    (0x2623, "BIOHAZARD SIGN;CADUCEUS;ANKH;ORTHODOX CROSS;CHI RHO;;;;FARSI SYMBOL;ADI SHAKTI"),
    (0x262d, "HAMMER AND SICKLE;PEACE SYMBOL;YIN YANG"), (0x2638, "WHEEL OF DHARMA"),
    (0x263d, "FIRST QUARTER MOON;LAST QUARTER MOON;MERCURY;FEMALE SIGN;EARTH;;JUPITER;SATURN"),
    (0x2645, "URANUS;NEPTUNE;PLUTO;ARIES;TAURUS;GEMINI;CANCER;LEO;VIRGO;LIBRA;SCORPIUS"),
    (0x2650, "SAGITTARIUS;CAPRICORN;AQUARIUS;PISCES"), (0x2668, "HOT SPRINGS;QUARTER NOTE"),
    (0x266a, "EIGHTH NOTE;BEAMED EIGHTH NOTES;BEAMED SIXTEENTH NOTES;;;;WEST SYRIAC CROSS"),
    (0x2671, "EAST SYRIAC CROSS;UNIVERSAL RECYCLING SYMBOL"), (0x267c, "RECYCLED PAPER SYMBOL"),
    (0x267d, "PARTIALLY-RECYCLED PAPER SYMBOL;PERMANENT PAPER SIGN;WHEELCHAIR SYMBOL"),
    (0x268a, "MONOGRAM FOR YANG;MONOGRAM FOR YIN;;;;;;;HAMMER AND PICK;ANCHOR;CROSSED SWORDS"),
    (0x2695, "STAFF OF AESCULAPIUS;SCALES;ALEMBIC;FLOWER;GEAR;STAFF OF HERMES;ATOM SYMBOL"),
    (0x269c, "FLEUR-DE-LIS;;;;WARNING SIGN;HIGH VOLTAGE SIGN;;;INTERLOCKED FEMALE AND MALE SIGN"),
    (0x26ad, "MARRIAGE SYMBOL;DIVORCE SYMBOL;UNMARRIED PARTNERSHIP SYMBOL;COFFIN;FUNERAL URN"),
    (0x26b2, "NEUTER;CERES;PALLAS;JUNO;VESTA;CHIRON;;SEXTILE;SEMISEXTILE;QUINCUNX"),
    (0x26bc, "SESQUIQUADRATE;SOCCER BALL;BASEBALL;;;;;;SNOWMAN WITHOUT SNOW;SUN BEHIND CLOUD"),
    (0x26c6, "RAIN;;THUNDER CLOUD AND RAIN;;;;CROSSING LANES;DISABLED CAR;OPHIUCHUS;PICK"),
    (0x26d0, "CAR SLIDING;HELMET WITH WHITE CROSS;;CHAINS;NO ENTRY"),
    (0x26d5, "ALTERNATE ONE-WAY LEFT WAY TRAFFIC;;;;;DRIVE SLOW SIGN"),
    (0x26e0, "RESTRICTED LEFT ENTRY-1;RESTRICTED LEFT ENTRY-2;ASTRONOMICAL SYMBOL FOR URANUS"),
    (0x26e4, "PENTAGRAM;RIGHT-HANDED INTERLACED PENTAGRAM;LEFT-HANDED INTERLACED PENTAGRAM"),
    (0x26e7, "INVERTED PENTAGRAM;;SHINTO SHRINE;CHURCH;CASTLE;HISTORIC SITE;GEAR WITHOUT HUB"),
    (0x26ee, "GEAR WITH HANDLES;MAP SYMBOL FOR LIGHTHOUSE;MOUNTAIN;UMBRELLA ON GROUND;FOUNTAIN"),
    (0x26f3, "FLAG IN HOLE;FERRY;SAILBOAT;;SKIER;ICE SKATE;PERSON WITH BALL;TENT"),
    (0x26fb, "JAPANESE BANK SYMBOL;HEADSTONE GRAVEYARD SYMBOL;FUEL PUMP;CUP ON BLACK SQUARE"),
    (0x2706, "TELEPHONE LOCATION SIGN;TAPE DRIVE;AIRPLANE;ENVELOPE;RAISED FIST;RAISED HAND"),
    (0x270c, "VICTORY HAND;WRITING HAND;;PENCIL;;;;CHECK MARK"), (0x271d, "LATIN CROSS"),
    (0x2720, "MALTESE CROSS;;;;;;;;SPARKLES;STRESS OUTLINED WHITE STAR;;;;;;PINWHEEL STAR"),
    (0x2736, "SIX POINTED BLACK STAR;;;TWELVE POINTED BLACK STAR;SIXTEEN POINTED ASTERISK"),
    (0x273b, "TEARDROP-SPOKED ASTERISK;;;SIX PETALLED BLACK AND WHITE FLORETTE;;;;;;SNOWFLAKE"),
    (0x2745, "TIGHT TRIFOLIATE SNOWFLAKE;;SPARKLE;;BALLOON-SPOKED ASTERISK"),
    (0x2761, "CURVED STEM PARAGRAPH SIGN ORNAMENT;;;;;FLORAL HEART"),
    (0x279b, "DRAFTING POINT RIGHTWARDS ARROW;;TRIANGLE-HEADED RIGHTWARDS ARROW"),
    (0x279f, "DASHED TRIANGLE-HEADED RIGHTWARDS ARROW;;;;;;;;SQUAT BLACK RIGHTWARDS ARROW"),
    (0x27a9, "RIGHT-SHADED WHITE RIGHTWARDS ARROW;LEFT-SHADED WHITE RIGHTWARDS ARROW"),
    (0x27ab, "BACK-TILTED SHADOWED WHITE RIGHTWARDS ARROW"),
    (0x27ac, "FRONT-TILTED SHADOWED WHITE RIGHTWARDS ARROW"),
    (0x27af, "NOTCHED LOWER RIGHT-SHADOWED WHITE RIGHTWARDS ARROW;CURLY LOOP"),
    (0x27b1, "NOTCHED UPPER RIGHT-SHADOWED WHITE RIGHTWARDS ARROW"),
    (0x27b3, "WHITE-FEATHERED RIGHTWARDS ARROW;;;;;;;TEARDROP-BARBED RIGHTWARDS ARROW"),
    (0x27bc, "WEDGE-TAILED RIGHTWARDS ARROW;;OPEN-OUTLINED RIGHTWARDS ARROW;;;;PERPENDICULAR"),
    (0x27c7, "OR WITH DOT INSIDE"), (0x27d1, "AND WITH DOT;ELEMENT OF OPENING UPWARDS"),
    (0x27d7, "FULL OUTER JOIN"), (0x27e0, "LOZENGE DIVIDED BY HORIZONTAL RULE"),
    (0x292b, "RISING DIAGONAL CROSSING FALLING DIAGONAL"),
    (0x2930, "RISING DIAGONAL CROSSING SOUTH EAST ARROW;;;WAVE ARROW POINTING DIRECTLY RIGHT"),
    (0x2938, "RIGHT-SIDE ARC CLOCKWISE ARROW;LEFT-SIDE ARC ANTICLOCKWISE ARROW"),
    (0x297f, "DOWN FISH TAIL"), (0x299e, "ANGLE WITH S INSIDE;ACUTE ANGLE"),
    (0x29a0, "SPHERICAL ANGLE OPENING LEFT;SPHERICAL ANGLE OPENING UP;;;ANGLE WITH UNDERBAR"),
    (0x29a6, "OBLIQUE ANGLE OPENING UP;OBLIQUE ANGLE OPENING DOWN"), (0x29cc, "S IN TRIANGLE"),
    (0x29d1, "BOWTIE WITH LEFT HALF BLACK;BOWTIE WITH RIGHT HALF BLACK"),
    (0x29d4, "TIMES WITH LEFT HALF BLACK;TIMES WITH RIGHT HALF BLACK;;;;;;;INCOMPLETE INFINITY"),
    (0x29dd, "TIE OVER INFINITY;INFINITY NEGATED WITH VERTICAL BAR;DOUBLE-ENDED MULTIMAP"),
    (0x29e1, "INCREASES AS;SHUFFLE PRODUCT;;;IDENTICAL TO AND SLANTED PARALLEL;GLEICH STARK"),
    (0x29e7, "THERMODYNAMIC"), (0x29f4, "RULE-DELAYED;;SOLIDUS WITH OVERBAR;;BIG SOLIDUS"),
    (0x29f9, "BIG REVERSE SOLIDUS;;;;;TINY;MINY"), (0x2a0a, "MODULO TWO SUM"),
    (0x2a0c, "QUADRUPLE INTEGRAL OPERATOR;FINITE PART INTEGRAL;;;CIRCULATION FUNCTION"),
    (0x2a16, "QUATERNION INTEGRAL OPERATOR;;;;;;;JOIN"), (0x2a2f, "VECTOR OR CROSS PRODUCT"),
    (0x2a32, "SEMIDIRECT PRODUCT WITH BOTTOM CLOSED;SMASH PRODUCT"), (0x2a3c, "INTERIOR PRODUCT"),
    (0x2a3d, "RIGHTHAND INTERIOR PRODUCT;;AMALGAMATION OR COPRODUCT"),
    (0x2a57, "SLOPING LARGE OR;SLOPING LARGE AND"), (0x2a61, "SMALL VEE WITH UNDERBAR"),
    (0x2a67, "IDENTICAL WITH DOT ABOVE;;;;;;CONGRUENT WITH DOT ABOVE"),
    (0x2a6f, "ALMOST EQUAL TO WITH CIRCUMFLEX ACCENT;APPROXIMATELY EQUAL OR EQUAL TO"),
    (0x2a78, "EQUIVALENT WITH FOUR DOTS ABOVE"), (0x2aaa, "SMALLER THAN;LARGER THAN"),
    (0x2aac, "SMALLER THAN OR EQUAL TO;LARGER THAN OR EQUAL TO"),
    (0x2ad9, "ELEMENT OF OPENING DOWNWARDS;PITCHFORK WITH TEE TOP;TRANSVERSAL INTERSECTION"),
    (0x2adc, "FORKING;NONFORKING;;;;PERPENDICULAR WITH S"),
    (0x2aee, "DOES NOT DIVIDE WITH REVERSED NEGATION SLASH;;;DOWN TACK WITH CIRCLE BELOW"),
    (0x2af2, "PARALLEL WITH HORIZONTAL STROKE;PARALLEL WITH TILDE OPERATOR"),
    (0x2b3f, "WAVE ARROW POINTING DIRECTLY LEFT"),
    (0x2b5e, "BENT ARROW POINTING DOWNWARDS THEN NORTH EAST"), (0x2b92, "NEWLINE LEFT"),
    (0x2b93, "NEWLINE RIGHT"), (0x2bc9, "NEPTUNE FORM TWO;;;;;;;;UNCERTAINTY SIGN;GROUP MARK"),
    (0x2bd7, "TRANSPLUTO;PROSERPINA;ASTRAEA;HYGIEA;PHOLUS;NESSUS;;;TRUE LIGHT MOON ARTA;CUPIDO"),
    (0x2be1, "HADES;ZEUS;KRONOS;APOLLON;ADMETOS;VULCANUS;POSEIDON"), (0x2bf0, "ERIS FORM ONE"),
    (0x2bf1, "ERIS FORM TWO;SEDNA;;;;;;;;UNITED SYMBOL;SEPARATED SYMBOL;;PASSED SYMBOL"),
    (0x2bff, "HELLSCHREIBER PAUSE SYMBOL")]⟩,
  ⟨"UP ", [
    (0x2303, "ARROWHEAD"), (0x2324, "ARROWHEAD BETWEEN TWO HORIZONTAL BARS"),
    (0x27df, "TACK WITH CIRCLE ABOVE"), (0x297e, "FISH TAIL"), (0x29bd, "ARROW THROUGH CIRCLE"),
    (0x2b0d, "DOWN BLACK ARROW"), (0x2b65, "DOWN TRIANGLE-HEADED ARROW"),
    (0x2bb9, "ARROWHEAD IN A RECTANGLE BOX")]⟩,
  ⟨"LEFT ", [
    (0x2308, "CEILING;;FLOOR"), (0x23a7, "CURLY BRACKET UPPER HOOK;CURLY BRACKET MIDDLE PIECE"),
    (0x23a9, "CURLY BRACKET LOWER HOOK"), (0x23b8, "VERTICAL BOX LINE"),
    (0x2589, "SEVEN EIGHTHS BLOCK;THREE QUARTERS BLOCK;FIVE EIGHTHS BLOCK;HALF BLOCK"),
    (0x258d, "THREE EIGHTHS BLOCK;ONE QUARTER BLOCK;ONE EIGHTH BLOCK"),
    (0x25d6, "HALF BLACK CIRCLE"), (0x26dc, "CLOSED ENTRY"), (0x27c5, "S-SHAPED BAG DELIMITER"),
    (0x27d5, "OUTER JOIN;;;;;AND RIGHT DOUBLE TURNSTILE;AND RIGHT TACK;MULTIMAP"),
    (0x294a, "BARB UP RIGHT BARB DOWN HARPOON;BARB DOWN RIGHT BARB UP HARPOON"),
    (0x294e, "BARB UP RIGHT BARB UP HARPOON;;BARB DOWN RIGHT BARB DOWN HARPOON"),
    (0x297c, "FISH TAIL;;;;;;;WHITE CURLY BRACKET;;WHITE PARENTHESIS"),
    (0x2991, "ANGLE BRACKET WITH DOT;;ARC LESS-THAN BRACKET;;;;BLACK TORTOISE SHELL BRACKET"),
    (0x29cf, "TRIANGLE BESIDE VERTICAL BAR"), (0x29d8, "WIGGLY FENCE;;DOUBLE WIGGLY FENCE"),
    (0x2b30, "ARROW WITH SMALL CIRCLE;;ARROW WITH CIRCLED PLUS"), (0x2be8, "HALF BLACK STAR")]⟩,
  ⟨"RIGHT ", [
    (0x2309, "CEILING;;FLOOR"), (0x237c, "ANGLE WITH DOWNWARDS ZIGZAG ARROW"),
    (0x23ab, "CURLY BRACKET UPPER HOOK;CURLY BRACKET MIDDLE PIECE;CURLY BRACKET LOWER HOOK"),
    (0x23b9, "VERTICAL BOX LINE"), (0x2590, "HALF BLOCK;;;;;ONE EIGHTH BLOCK"),
    (0x25d7, "HALF BLACK CIRCLE"), (0x27c6, "S-SHAPED BAG DELIMITER"), (0x27d6, "OUTER JOIN"),
    (0x27f4, "ARROW WITH CIRCLED PLUS"), (0x2970, "DOUBLE ARROW WITH ROUNDED HEAD"),
    (0x297d, "FISH TAIL;;;;;;;WHITE CURLY BRACKET;;WHITE PARENTHESIS"),
    (0x2992, "ANGLE BRACKET WITH DOT;;ARC GREATER-THAN BRACKET;;;;BLACK TORTOISE SHELL BRACKET"),
    (0x299c, "ANGLE VARIANT WITH SQUARE"), (0x29ce, "TRIANGLE ABOVE LEFT TRIANGLE"),
    (0x29d9, "WIGGLY FENCE;;DOUBLE WIGGLY FENCE"), (0x2be9, "HALF BLACK STAR")]⟩,
  ⟨"BOTTOM ", [
    (0x230c, "RIGHT CROP;LEFT CROP"), (0x231e, "LEFT CORNER;RIGHT CORNER;;HALF INTEGRAL"),
    (0x23b5, "SQUARE BRACKET;SQUARE BRACKET OVER TOP SQUARE BRACKET"), (0x23dd, "PARENTHESIS"),
    (0x23df, "CURLY BRACKET;;TORTOISE SHELL BRACKET"), (0x293b, "ARC ANTICLOCKWISE ARROW"),
    (0x2bcb, "HALF BLACK CIRCLE")]⟩,
  ⟨"TOP ", [
    (0x230e, "RIGHT CROP;LEFT CROP"), (0x231c, "LEFT CORNER;RIGHT CORNER;;;HALF INTEGRAL"),
    (0x23b4, "SQUARE BRACKET"), (0x23dc, "PARENTHESIS;;CURLY BRACKET;;TORTOISE SHELL BRACKET"),
    (0x293a, "ARC ANTICLOCKWISE ARROW;;ARC CLOCKWISE ARROW WITH MINUS"),
    (0x293d, "ARC ANTICLOCKWISE ARROW WITH PLUS"), (0x2bca, "HALF BLACK CIRCLE")]⟩,
  ⟨"REVERSED ", [
    (0x2310, "NOT SIGN"), (0x2619, "ROTATED FLORAL HEART BULLET"), (0x29a3, "ANGLE"),
    (0x29a5, "ANGLE WITH UNDERBAR"), (0x29b0, "EMPTY SET"), (0x2aed, "DOUBLE STROKE NOT SIGN"),
    (0x2bfe, "RIGHT ANGLE")]⟩,
  ⟨"SQUARE ", [
    (0x2311, "LOZENGE"), (0x23cd, "FOOT"), (0x26f6, "FOUR CORNERS"),
    (0x2acd, "LEFT OPEN BOX OPERATOR;RIGHT OPEN BOX OPERATOR"), (0x2bd0, "POSITION INDICATOR")]⟩,
  ⟨"TURNED ", [
    (0x2319, "NOT SIGN"), (0x26c9, "WHITE SHOGI PIECE;BLACK SHOGI PIECE"), (0x29a2, "ANGLE"),
    (0x2bc2, "BLACK PENTAGON")]⟩,
  ⟨"LEFT-POINTING ", [(0x2329, "ANGLE BRACKET"), (0x29fc, "CURVED ANGLE BRACKET")]⟩,
  ⟨"RIGHT-POINTING ", [(0x232a, "ANGLE BRACKET"), (0x29fd, "CURVED ANGLE BRACKET")]⟩,
  ⟨"APL FUNCTIONAL SYMBOL ", [
    (0x2336, "I-BEAM;SQUISH QUAD;;;;;;;;SLASH BAR;BACKSLASH BAR;;;;;LEFTWARDS VANE"),
    (0x2346, "RIGHTWARDS VANE;;;;DOWN TACK UNDERBAR;DELTA STILE;;;DOWN TACK JOT;UPWARDS VANE"),
    (0x2351, "UP TACK OVERBAR;DEL STILE;;;UP TACK JOT;DOWNWARDS VANE;;QUOTE UNDERBAR"),
    (0x2359, "DELTA UNDERBAR;DIAMOND UNDERBAR;JOT UNDERBAR;;UP SHOE JOT;QUOTE QUAD"),
    (0x2361, "UP TACK DIAERESIS;DEL DIAERESIS;STAR DIAERESIS;JOT DIAERESIS;;DOWN SHOE STILE"),
    (0x2367, "LEFT SHOE STILE;TILDE DIAERESIS;GREATER-THAN DIAERESIS;COMMA BAR;DEL TILDE;ZILDE"),
    (0x236d, "STILE TILDE;SEMICOLON UNDERBAR;;;DOWN CARET TILDE;UP CARET TILDE;IOTA;RHO;OMEGA"),
    (0x2376, "ALPHA UNDERBAR;EPSILON UNDERBAR;IOTA UNDERBAR;OMEGA UNDERBAR;ALPHA"),
    (0x2395, "QUAD")]⟩,
  ⟨"APL FUNCTIONAL SYMBOL QUAD ", [
    (0x2338, "EQUAL;DIVIDE;DIAMOND;JOT;CIRCLE;;;;;SLASH;BACKSLASH;LESS-THAN;GREATER-THAN"),
    (0x2347, "LEFTWARDS ARROW;RIGHTWARDS ARROW;;;;DOWN CARET;DELTA;;;UPWARDS ARROW;;;UP CARET"),
    (0x2354, "DEL;;;DOWNWARDS ARROW"), (0x2360, "COLON"), (0x236f, "NOT EQUAL;QUESTION")]⟩,
  ⟨"APL FUNCTIONAL SYMBOL CIRCLE ", [
    (0x233d, "STILE;JOT"), (0x2349, "BACKSLASH"), (0x235c, "UNDERBAR;;;STAR;;;;;;DIAERESIS")]⟩,
  ⟨"VERTICAL ", [
    (0x237f, "LINE WITH MIDDLE DOT"), (0x23d0, "LINE EXTENSION"),
    (0x26a8, "MALE WITH STROKE SIGN"), (0x27ca, "BAR WITH HORIZONTAL STROKE"),
    (0x299a, "ZIGZAG LINE"), (0x29d0, "BAR BESIDE RIGHT TRIANGLE"),
    (0x2ae2, "BAR TRIPLE RIGHT TURNSTILE;;BAR DOUBLE LEFT TURNSTILE"),
    (0x2aef, "LINE WITH CIRCLE ABOVE;LINE WITH CIRCLE BELOW"), (0x2b7f, "TAB KEY")]⟩,
  ⟨"WHITE SQUARE WITH ", [
    (0x2385, "CENTRE VERTICAL LINE"), (0x25a2, "ROUNDED CORNERS"),
    (0x25eb, "VERTICAL BISECTING LINE;;;;;UPPER LEFT QUADRANT;LOWER LEFT QUADRANT"),
    (0x25f2, "LOWER RIGHT QUADRANT;UPPER RIGHT QUADRANT"), (0x27e4, "LEFTWARDS TICK"),
    (0x27e5, "RIGHTWARDS TICK")]⟩,
  ⟨"CIRCLED ", [
    (0x2389, "HORIZONTAL BAR WITH NOTCH;TRIANGLE DOWN"), (0x26d2, "CROSSING LANES"),
    (0x272a, "WHITE STAR"), (0x2742, "OPEN CENTRE EIGHT POINTED STAR"),
    (0x27b2, "HEAVY WHITE RIGHTWARDS ARROW"), (0x29b6, "VERTICAL BAR;PARALLEL;REVERSE SOLIDUS"),
    (0x29b9, "PERPENDICULAR;;;ANTICLOCKWISE-ROTATED DIVISION SIGN;;WHITE BULLET;BULLET"),
    (0x29c0, "LESS-THAN;GREATER-THAN"), (0x2a36, "MULTIPLICATION SIGN WITH CIRCUMFLEX ACCENT"),
    (0x2a38, "DIVISION SIGN"), (0x2bbe, "X;BOLD X")]⟩,
  ⟨"OPEN-CIRCUIT-OUTPUT ", [(0x238f, "H-TYPE SYMBOL;L-TYPE SYMBOL")]⟩,
  ⟨"LEFT PARENTHESIS ", [(0x239b, "UPPER HOOK;EXTENSION;LOWER HOOK")]⟩,
  ⟨"RIGHT PARENTHESIS ", [(0x239e, "UPPER HOOK;EXTENSION;LOWER HOOK")]⟩,
  ⟨"LEFT SQUARE BRACKET ", [
    (0x23a1, "UPPER CORNER;EXTENSION;LOWER CORNER"), (0x298b, "WITH UNDERBAR"),
    (0x298d, "WITH TICK IN TOP CORNER;;WITH TICK IN BOTTOM CORNER")]⟩,
  ⟨"RIGHT SQUARE BRACKET ", [
    (0x23a4, "UPPER CORNER;EXTENSION;LOWER CORNER"), (0x298c, "WITH UNDERBAR"),
    (0x298e, "WITH TICK IN BOTTOM CORNER;;WITH TICK IN TOP CORNER")]⟩,
  ⟨"INTEGRAL ", [
    (0x23ae, "EXTENSION"), (0x2a0f, "AVERAGE WITH SLASH;;;;;;AROUND A POINT OPERATOR")]⟩,
  ⟨"HORIZONTAL ", [
    (0x23af, "LINE EXTENSION"), (0x23ba, "SCAN LINE-1;SCAN LINE-3;SCAN LINE-7;SCAN LINE-9"),
    (0x26a9, "MALE WITH STROKE SIGN"), (0x2b23, "BLACK HEXAGON"), (0x2b7e, "TAB KEY"),
    (0x2bc3, "BLACK OCTAGON")]⟩,
  ⟨"UPPER ", [
    (0x23b0, "LEFT OR LOWER RIGHT CURLY BRACKET SECTION"), (0x2580, "HALF BLOCK"),
    (0x2594, "ONE EIGHTH BLOCK"), (0x25da, "HALF INVERSE WHITE CIRCLE"),
    (0x25dc, "LEFT QUADRANT CIRCULAR ARC;;;;HALF CIRCLE"), (0x25f8, "LEFT TRIANGLE"),
    (0x2701, "BLADE SCISSORS"), (0x27d4, "LEFT CORNER WITH DOT")]⟩,
  ⟨"UPPER RIGHT ", [
    (0x23b1, "OR LOWER LEFT CURLY BRACKET SECTION"), (0x25dd, "QUADRANT CIRCULAR ARC"),
    (0x25f9, "TRIANGLE"), (0x2710, "PENCIL"), (0x2750, "DROP-SHADOWED WHITE SQUARE"),
    (0x2752, "SHADOWED WHITE SQUARE")]⟩,
  ⟨"SUMMATION ", [(0x23b2, "TOP;BOTTOM"), (0x2a0b, "WITH INTEGRAL")]⟩,
  ⟨"DENTISTRY SYMBOL LIGHT VERTICAL ", [
    (0x23be, "AND TOP RIGHT;AND BOTTOM RIGHT;WITH CIRCLE;;;WITH TRIANGLE;;;AND WAVE"),
    (0x23cb, "AND TOP LEFT;AND BOTTOM LEFT")]⟩,
  ⟨"DENTISTRY SYMBOL LIGHT ", [
    (0x23c1, "DOWN AND HORIZONTAL WITH CIRCLE;UP AND HORIZONTAL WITH CIRCLE"),
    (0x23c4, "DOWN AND HORIZONTAL WITH TRIANGLE;UP AND HORIZONTAL WITH TRIANGLE"),
    (0x23c7, "DOWN AND HORIZONTAL WITH WAVE;UP AND HORIZONTAL WITH WAVE;DOWN AND HORIZONTAL"),
    (0x23ca, "UP AND HORIZONTAL")]⟩,
  ⟨"RETURN ", [(0x23ce, "SYMBOL"), (0x2b90, "LEFT;RIGHT")]⟩,
  ⟨"METRICAL ", [
    (0x23d1, "BREVE;LONG OVER SHORT;SHORT OVER LONG;LONG OVER TWO SHORTS;TWO SHORTS OVER LONG"),
    (0x23d6, "TWO SHORTS JOINED;TRISEME;TETRASEME;PENTASEME")]⟩,
  ⟨"WHITE ", [
    (0x23e2, "TRAPEZIUM"), (0x25a1, "SQUARE"), (0x25ab, "SMALL SQUARE;;RECTANGLE"),
    (0x25b1, "PARALLELOGRAM"), (0x25bd, "DOWN-POINTING TRIANGLE;;DOWN-POINTING SMALL TRIANGLE"),
    (0x25c7, "DIAMOND;;;;CIRCLE"), (0x25e6, "BULLET"), (0x2606, "STAR"), (0x260f, "TELEPHONE"),
    (0x2616, "SHOGI PIECE;;;;;;LEFT POINTING INDEX;UP POINTING INDEX;RIGHT POINTING INDEX"),
    (0x261f, "DOWN POINTING INDEX"), (0x2639, "FROWNING FACE;SMILING FACE;;SUN WITH RAYS"),
    (0x2661, "HEART SUIT;;;SPADE SUIT;;;CLUB SUIT"), (0x2690, "FLAG"), (0x26c0, "DRAUGHTS MAN"),
    (0x26c1, "DRAUGHTS KING"), (0x26d7, "TWO-WAY LEFT WAY TRAFFIC;;LEFT LANE MERGE"),
    (0x26ff, "FLAG WITH HORIZONTAL MIDDLE BLACK STRIPE;;;;;SCISSORS;HEAVY CHECK MARK"),
    (0x2711, "NIB"), (0x2727, "FOUR POINTED STAR"), (0x2740, "FLORETTE"),
    (0x2754, "QUESTION MARK ORNAMENT;EXCLAMATION MARK ORNAMENT"),
    (0x27c1, "TRIANGLE CONTAINING SMALL WHITE TRIANGLE"), (0x29d6, "HOURGLASS"),
    (0x2b1c, "LARGE SQUARE;;VERY SMALL SQUARE;;PENTAGON;HEXAGON"), (0x2b2b, "SMALL LOZENGE"),
    (0x2b2d, "HORIZONTAL ELLIPSE"), (0x2b52, "SMALL STAR"), (0x2bce, "FOUR POINTED CUSP"),
    (0x2bdd, "MOON SELENA")]⟩,
  ⟨"BLACK RIGHT-POINTING ", [
    (0x23e9, "DOUBLE TRIANGLE;;;;DOUBLE TRIANGLE WITH VERTICAL BAR"),
    (0x23ef, "TRIANGLE WITH DOUBLE VERTICAL BAR"), (0x25b6, "TRIANGLE;;SMALL TRIANGLE;;POINTER"),
    (0x2b53, "PENTAGON")]⟩,
  ⟨"BLACK LEFT-POINTING ", [
    (0x23ea, "DOUBLE TRIANGLE;;;;DOUBLE TRIANGLE WITH VERTICAL BAR"), (0x25c0, "TRIANGLE"),
    (0x25c2, "SMALL TRIANGLE;;POINTER")]⟩,
  ⟨"BLACK UP-POINTING ", [(0x23eb, "DOUBLE TRIANGLE"), (0x25b2, "TRIANGLE;;SMALL TRIANGLE")]⟩,
  ⟨"BLACK DOWN-POINTING ", [(0x23ec, "DOUBLE TRIANGLE"), (0x25bc, "TRIANGLE;;SMALL TRIANGLE")]⟩,
  ⟨"BLACK MEDIUM ", [
    (0x23f4, "LEFT-POINTING TRIANGLE;RIGHT-POINTING TRIANGLE;UP-POINTING TRIANGLE"),
    (0x23f7, "DOWN-POINTING TRIANGLE"), (0x25fc, "SQUARE;;SMALL SQUARE"), (0x2b25, "DIAMOND"),
    (0x2b27, "LOZENGE"), (0x2bc5, "UP-POINTING TRIANGLE CENTRED;DOWN-POINTING TRIANGLE CENTRED"),
    (0x2bc7, "LEFT-POINTING TRIANGLE CENTRED;RIGHT-POINTING TRIANGLE CENTRED")]⟩,
  ⟨"DOUBLE ", [
    (0x23f8, "VERTICAL BAR"), (0x27bf, "CURLY LOOP"), (0x2995, "LEFT ARC GREATER-THAN BRACKET"),
    (0x2996, "RIGHT ARC LESS-THAN BRACKET"), (0x29fa, "PLUS"), (0x2a4e, "SQUARE INTERSECTION"),
    (0x2a4f, "SQUARE UNION;;;;LOGICAL AND;LOGICAL OR"), (0x2a74, "COLON EQUAL"),
    (0x2aa1, "NESTED LESS-THAN;NESTED GREATER-THAN;NESTED LESS-THAN WITH UNDERBAR"),
    (0x2abb, "PRECEDES;SUCCEEDS"), (0x2ae3, "VERTICAL BAR LEFT TURNSTILE"),
    (0x2ae5, "VERTICAL BAR DOUBLE LEFT TURNSTILE;;;;;DOWN TACK;UP TACK;STROKE NOT SIGN"),
    (0x2afd, "SOLIDUS OPERATOR")]⟩,
  ⟨"BLACK ", [
    (0x23f9, "SQUARE FOR STOP"), (0x25a0, "SQUARE"), (0x25ac, "RECTANGLE;;VERTICAL RECTANGLE"),
    (0x25b0, "PARALLELOGRAM"), (0x25c6, "DIAMOND"), (0x25cf, "CIRCLE"),
    (0x25e2, "LOWER RIGHT TRIANGLE;LOWER LEFT TRIANGLE;UPPER LEFT TRIANGLE;UPPER RIGHT TRIANGLE"),
    (0x2600, "SUN WITH RAYS;;;;;STAR"), (0x260e, "TELEPHONE"), (0x2617, "SHOGI PIECE"),
    (0x261a, "LEFT POINTING INDEX;RIGHT POINTING INDEX"), (0x263b, "SMILING FACE"),
    (0x2660, "SPADE SUIT;;;CLUB SUIT;;HEART SUIT"), (0x267b, "UNIVERSAL RECYCLING SYMBOL"),
    (0x2691, "FLAG"), (0x26b8, "MOON LILITH"), (0x26c2, "DRAUGHTS MAN;DRAUGHTS KING;;;;SNOWMAN"),
    (0x26d6, "TWO-WAY LEFT WAY TRAFFIC;;LEFT LANE MERGE;;;;;;;TRUCK"),
    (0x26e8, "CROSS ON SHIELD"), (0x2700, "SAFETY SCISSORS;;SCISSORS"), (0x2712, "NIB"),
    (0x2726, "FOUR POINTED STAR;;;;;;CENTRE WHITE STAR"), (0x273f, "FLORETTE"),
    (0x2753, "QUESTION MARK ORNAMENT"), (0x29d3, "BOWTIE;;;;HOURGLASS"), (0x29eb, "LOZENGE"),
    (0x2b1b, "LARGE SQUARE;;VERY SMALL SQUARE;;PENTAGON;;;HEXAGON;;LARGE CIRCLE"),
    (0x2b2c, "HORIZONTAL ELLIPSE;;VERTICAL ELLIPSE"), (0x2b9c, "LEFTWARDS EQUILATERAL ARROWHEAD"),
    (0x2b9d, "UPWARDS EQUILATERAL ARROWHEAD;;DOWNWARDS EQUILATERAL ARROWHEAD"),
    (0x2bc0, "SQUARE CENTRED;;;;OCTAGON")]⟩,
  ⟨"BLACK CIRCLE ", [
    (0x23fa, "FOR RECORD"), (0x2688, "WITH WHITE DOT RIGHT;WITH TWO WHITE DOTS"),
    (0x29ed, "WITH DOWN ARROW")]⟩,
  ⟨"POWER ", [(0x23fb, "SYMBOL;ON-OFF SYMBOL;ON SYMBOL;SLEEP SYMBOL")]⟩,
  ⟨"SYMBOL FOR ", [
    (0x2400, "NULL;START OF HEADING;START OF TEXT;END OF TEXT;END OF TRANSMISSION;ENQUIRY"),
    (0x2406, "ACKNOWLEDGE;BELL;BACKSPACE;HORIZONTAL TABULATION;LINE FEED;VERTICAL TABULATION"),
    (0x240c, "FORM FEED;CARRIAGE RETURN;SHIFT OUT;SHIFT IN;DATA LINK ESCAPE;DEVICE CONTROL ONE"),
    (0x2412, "DEVICE CONTROL TWO;DEVICE CONTROL THREE;DEVICE CONTROL FOUR;NEGATIVE ACKNOWLEDGE"),
    (0x2416, "SYNCHRONOUS IDLE;END OF TRANSMISSION BLOCK;CANCEL;END OF MEDIUM;SUBSTITUTE;ESCAPE"),
    (0x241c, "FILE SEPARATOR;GROUP SEPARATOR;RECORD SEPARATOR;UNIT SEPARATOR;SPACE;DELETE"),
    (0x2424, "NEWLINE;DELETE FORM TWO;SUBSTITUTE FORM TWO"), (0x2b97, "TYPE A ELECTRONICS")]⟩,
  ⟨"OPEN ", [(0x2423, "BOX"), (0x27c3, "SUBSET;SUPERSET")]⟩,
  ⟨"OCR ", [
    (0x2440, "HOOK;CHAIR;FORK;INVERTED FORK;BELT BUCKLE;BOW TIE;BRANCH BANK IDENTIFICATION"),
    (0x2447, "AMOUNT OF CHECK;DASH;CUSTOMER ACCOUNT NUMBER;DOUBLE BACKSLASH")]⟩,
  ⟨"CIRCLED DIGIT ", [(0x2460, "ONE;TWO;THREE;FOUR;FIVE;SIX;SEVEN;EIGHT;NINE"), (0x24ea, "ZERO")]⟩,
  ⟨"CIRCLED NUMBER ", [
    (0x2469, "TEN;ELEVEN;TWELVE;THIRTEEN;FOURTEEN;FIFTEEN;SIXTEEN;SEVENTEEN;EIGHTEEN;NINETEEN"),
    (0x2473, "TWENTY")]⟩,
  ⟨"PARENTHESIZED DIGIT ", [(0x2474, "ONE;TWO;THREE;FOUR;FIVE;SIX;SEVEN;EIGHT;NINE")]⟩,
  ⟨"PARENTHESIZED NUMBER ", [
    (0x247d, "TEN;ELEVEN;TWELVE;THIRTEEN;FOURTEEN;FIFTEEN;SIXTEEN;SEVENTEEN;EIGHTEEN;NINETEEN"),
    (0x2487, "TWENTY")]⟩,
  ⟨"DIGIT ", [
    (0x2488, "ONE FULL STOP;TWO FULL STOP;THREE FULL STOP;FOUR FULL STOP;FIVE FULL STOP"),
    (0x248d, "SIX FULL STOP;SEVEN FULL STOP;EIGHT FULL STOP;NINE FULL STOP")]⟩,
  ⟨"NUMBER ", [
    (0x2491, "TEN FULL STOP;ELEVEN FULL STOP;TWELVE FULL STOP;THIRTEEN FULL STOP"),
    (0x2495, "FOURTEEN FULL STOP;FIFTEEN FULL STOP;SIXTEEN FULL STOP;SEVENTEEN FULL STOP"),
    (0x2499, "EIGHTEEN FULL STOP;NINETEEN FULL STOP;TWENTY FULL STOP")]⟩,
  ⟨"PARENTHESIZED LATIN SMALL LETTER ", [
    (0x249c, "A;B;C;D;E;F;G;H;I;J;K;L;M;N;O;P;Q;R;S;T;U;V;W;X;Y;Z")]⟩,
  ⟨"CIRCLED LATIN CAPITAL LETTER ", [
    (0x24b6, "A;B;C;D;E;F;G;H;I;J;K;L;M;N;O;P;Q;R;S;T;U;V;W;X;Y;Z")]⟩,
  ⟨"CIRCLED LATIN SMALL LETTER ", [
    (0x24d0, "A;B;C;D;E;F;G;H;I;J;K;L;M;N;O;P;Q;R;S;T;U;V;W;X;Y;Z")]⟩,
  ⟨"NEGATIVE CIRCLED NUMBER ", [
    (0x24eb, "ELEVEN;TWELVE;THIRTEEN;FOURTEEN;FIFTEEN;SIXTEEN;SEVENTEEN;EIGHTEEN;NINETEEN"),
    (0x24f4, "TWENTY")]⟩,
  ⟨"DOUBLE CIRCLED DIGIT ", [(0x24f5, "ONE;TWO;THREE;FOUR;FIVE;SIX;SEVEN;EIGHT;NINE")]⟩,
  ⟨"DOUBLE CIRCLED ", [(0x24fe, "NUMBER TEN")]⟩,
  ⟨"NEGATIVE CIRCLED ", [(0x24ff, "DIGIT ZERO")]⟩,
  ⟨"BOX DRAWINGS LIGHT ", [
    (0x2500, "HORIZONTAL;;VERTICAL;;TRIPLE DASH HORIZONTAL;;TRIPLE DASH VERTICAL"),
    (0x2508, "QUADRUPLE DASH HORIZONTAL;;QUADRUPLE DASH VERTICAL;;DOWN AND RIGHT"),
    (0x2510, "DOWN AND LEFT;;;;UP AND RIGHT;;;;UP AND LEFT;;;;VERTICAL AND RIGHT"),
    (0x2524, "VERTICAL AND LEFT;;;;;;;;DOWN AND HORIZONTAL;;;;;;;;UP AND HORIZONTAL"),
    (0x253c, "VERTICAL AND HORIZONTAL"), (0x254c, "DOUBLE DASH HORIZONTAL;;DOUBLE DASH VERTICAL"),
    (0x256d, "ARC DOWN AND RIGHT;ARC DOWN AND LEFT;ARC UP AND LEFT;ARC UP AND RIGHT"),
    (0x2571, "DIAGONAL UPPER RIGHT TO LOWER LEFT;DIAGONAL UPPER LEFT TO LOWER RIGHT"),
    (0x2573, "DIAGONAL CROSS;LEFT;UP;RIGHT;DOWN;;;;;LEFT AND HEAVY RIGHT;UP AND HEAVY DOWN")]⟩,
  ⟨"BOX DRAWINGS HEAVY ", [
    (0x2501, "HORIZONTAL;;VERTICAL;;TRIPLE DASH HORIZONTAL;;TRIPLE DASH VERTICAL"),
    (0x2509, "QUADRUPLE DASH HORIZONTAL;;QUADRUPLE DASH VERTICAL;;;;DOWN AND RIGHT"),
    (0x2513, "DOWN AND LEFT;;;;UP AND RIGHT;;;;UP AND LEFT;;;;;;;;VERTICAL AND RIGHT"),
    (0x252b, "VERTICAL AND LEFT;;;;;;;;DOWN AND HORIZONTAL;;;;;;;;UP AND HORIZONTAL"),
    (0x254b, "VERTICAL AND HORIZONTAL;;DOUBLE DASH HORIZONTAL;;DOUBLE DASH VERTICAL"),
    (0x2578, "LEFT;UP;RIGHT;DOWN;;;LEFT AND LIGHT RIGHT;UP AND LIGHT DOWN")]⟩,
  ⟨"BOX DRAWINGS DOWN LIGHT ", [
    (0x250d, "AND RIGHT HEAVY;;;;AND LEFT HEAVY"), (0x2521, "AND RIGHT UP HEAVY"),
    (0x2529, "AND LEFT UP HEAVY;;;;;;AND HORIZONTAL HEAVY"), (0x2547, "AND UP HORIZONTAL HEAVY")]⟩,
  ⟨"BOX DRAWINGS DOWN HEAVY ", [
    (0x250e, "AND RIGHT LIGHT;;;;AND LEFT LIGHT"), (0x251f, "AND RIGHT UP LIGHT"),
    (0x2527, "AND LEFT UP LIGHT"), (0x2530, "AND HORIZONTAL LIGHT"),
    (0x2541, "AND UP HORIZONTAL LIGHT")]⟩,
  ⟨"BOX DRAWINGS ", [
    (0x2515, "UP LIGHT AND RIGHT HEAVY;UP HEAVY AND RIGHT LIGHT;;;UP LIGHT AND LEFT HEAVY"),
    (0x251a, "UP HEAVY AND LEFT LIGHT;;;;UP HEAVY AND RIGHT DOWN LIGHT"),
    (0x2522, "UP LIGHT AND RIGHT DOWN HEAVY;;;;UP HEAVY AND LEFT DOWN LIGHT"),
    (0x252a, "UP LIGHT AND LEFT DOWN HEAVY"), (0x2537, "UP LIGHT AND HORIZONTAL HEAVY"),
    (0x2538, "UP HEAVY AND HORIZONTAL LIGHT;;;;;;;;UP HEAVY AND DOWN HORIZONTAL LIGHT"),
    (0x2548, "UP LIGHT AND DOWN HORIZONTAL HEAVY"), (0x2558, "UP SINGLE AND RIGHT DOUBLE"),
    (0x2559, "UP DOUBLE AND RIGHT SINGLE;;UP SINGLE AND LEFT DOUBLE;UP DOUBLE AND LEFT SINGLE"),
    (0x2567, "UP SINGLE AND HORIZONTAL DOUBLE;UP DOUBLE AND HORIZONTAL SINGLE")]⟩,
  ⟨"BOX DRAWINGS VERTICAL ", [
    (0x251d, "LIGHT AND RIGHT HEAVY;;;HEAVY AND RIGHT LIGHT;;;;;LIGHT AND LEFT HEAVY"),
    (0x2528, "HEAVY AND LEFT LIGHT"), (0x253f, "LIGHT AND HORIZONTAL HEAVY"),
    (0x2542, "HEAVY AND HORIZONTAL LIGHT"), (0x255e, "SINGLE AND RIGHT DOUBLE"),
    (0x255f, "DOUBLE AND RIGHT SINGLE;;SINGLE AND LEFT DOUBLE;DOUBLE AND LEFT SINGLE"),
    (0x256a, "SINGLE AND HORIZONTAL DOUBLE;DOUBLE AND HORIZONTAL SINGLE")]⟩,
  ⟨"BOX DRAWINGS LEFT ", [
    (0x252d, "HEAVY AND RIGHT DOWN LIGHT;;;;;LIGHT AND RIGHT DOWN HEAVY"),
    (0x2535, "HEAVY AND RIGHT UP LIGHT;;;;;LIGHT AND RIGHT UP HEAVY"),
    (0x253d, "HEAVY AND RIGHT VERTICAL LIGHT;;;;;;UP HEAVY AND RIGHT DOWN LIGHT"),
    (0x2545, "DOWN HEAVY AND RIGHT UP LIGHT;;;;;LIGHT AND RIGHT VERTICAL HEAVY")]⟩,
  ⟨"BOX DRAWINGS RIGHT ", [
    (0x252e, "HEAVY AND LEFT DOWN LIGHT;;;LIGHT AND LEFT DOWN HEAVY;;;;;HEAVY AND LEFT UP LIGHT"),
    (0x2539, "LIGHT AND LEFT UP HEAVY;;;;;HEAVY AND LEFT VERTICAL LIGHT"),
    (0x2544, "UP HEAVY AND LEFT DOWN LIGHT;;DOWN HEAVY AND LEFT UP LIGHT"),
    (0x2549, "LIGHT AND LEFT VERTICAL HEAVY")]⟩,
  ⟨"BOX DRAWINGS DOUBLE ", [
    (0x2550, "HORIZONTAL;VERTICAL;;;DOWN AND RIGHT;;;DOWN AND LEFT;;;UP AND RIGHT;;;UP AND LEFT"),
    (0x2560, "VERTICAL AND RIGHT;;;VERTICAL AND LEFT;;;DOWN AND HORIZONTAL;;;UP AND HORIZONTAL"),
    (0x256c, "VERTICAL AND HORIZONTAL")]⟩,
  ⟨"BOX DRAWINGS DOWN ", [
    (0x2552, "SINGLE AND RIGHT DOUBLE;DOUBLE AND RIGHT SINGLE;;SINGLE AND LEFT DOUBLE"),
    (0x2556, "DOUBLE AND LEFT SINGLE"), (0x2564, "SINGLE AND HORIZONTAL DOUBLE"),
    (0x2565, "DOUBLE AND HORIZONTAL SINGLE")]⟩,
  ⟨"LOWER ", [
    (0x2581, "ONE EIGHTH BLOCK;ONE QUARTER BLOCK;THREE EIGHTHS BLOCK;HALF BLOCK"),
    (0x2585, "FIVE EIGHTHS BLOCK;THREE QUARTERS BLOCK;SEVEN EIGHTHS BLOCK"),
    (0x25db, "HALF INVERSE WHITE CIRCLE;;;;LEFT QUADRANT CIRCULAR ARC;;HALF CIRCLE"),
    (0x25fa, "LEFT TRIANGLE"), (0x2703, "BLADE SCISSORS"),
    (0x293f, "LEFT SEMICIRCULAR ANTICLOCKWISE ARROW")]⟩,
  ⟨"LIGHT ", [
    (0x2591, "SHADE"), (0x2758, "VERTICAL BAR"), (0x2772, "LEFT TORTOISE SHELL BRACKET ORNAMENT"),
    (0x2773, "RIGHT TORTOISE SHELL BRACKET ORNAMENT"), (0x2bcc, "FOUR POINTED BLACK CUSP")]⟩,
  ⟨"MEDIUM ", [
    (0x2592, "SHADE"), (0x26aa, "WHITE CIRCLE;BLACK CIRCLE;SMALL WHITE CIRCLE"),
    (0x2759, "VERTICAL BAR"), (0x2768, "LEFT PARENTHESIS ORNAMENT;RIGHT PARENTHESIS ORNAMENT"),
    (0x276a, "FLATTENED LEFT PARENTHESIS ORNAMENT;FLATTENED RIGHT PARENTHESIS ORNAMENT"),
    (0x276c, "LEFT-POINTING ANGLE BRACKET ORNAMENT;RIGHT-POINTING ANGLE BRACKET ORNAMENT"),
    (0x2774, "LEFT CURLY BRACKET ORNAMENT;RIGHT CURLY BRACKET ORNAMENT")]⟩,
  ⟨"QUADRANT ", [(0x2596, "LOWER LEFT;LOWER RIGHT")]⟩,
  ⟨"QUADRANT UPPER ", [
    (0x2598, "LEFT;LEFT AND LOWER LEFT AND LOWER RIGHT;LEFT AND LOWER RIGHT"),
    (0x259b, "LEFT AND UPPER RIGHT AND LOWER LEFT;LEFT AND UPPER RIGHT AND LOWER RIGHT;RIGHT"),
    (0x259e, "RIGHT AND LOWER LEFT;RIGHT AND LOWER LEFT AND LOWER RIGHT")]⟩,
  ⟨"WHITE SQUARE ", [(0x25a3, "CONTAINING BLACK SMALL SQUARE")]⟩,
  ⟨"SQUARE WITH ", [
    (0x25a4, "HORIZONTAL FILL;VERTICAL FILL;ORTHOGONAL CROSSHATCH FILL"),
    (0x25a7, "UPPER LEFT TO LOWER RIGHT FILL;UPPER RIGHT TO LOWER LEFT FILL"),
    (0x25a9, "DIAGONAL CROSSHATCH FILL"), (0x25e7, "LEFT HALF BLACK;RIGHT HALF BLACK"),
    (0x25e9, "UPPER LEFT DIAGONAL HALF BLACK;LOWER RIGHT DIAGONAL HALF BLACK"),
    (0x29e0, "CONTOURED OUTLINE"), (0x2b12, "TOP HALF BLACK;BOTTOM HALF BLACK"),
    (0x2b14, "UPPER RIGHT DIAGONAL HALF BLACK;LOWER LEFT DIAGONAL HALF BLACK")]⟩,
  ⟨"BLACK SMALL ", [(0x25aa, "SQUARE"), (0x2b29, "DIAMOND;LOZENGE"), (0x2b51, "STAR")]⟩,
  ⟨"WHITE VERTICAL ", [(0x25af, "RECTANGLE"), (0x2afe, "BAR"), (0x2b2f, "ELLIPSE")]⟩,
  ⟨"WHITE UP-POINTING ", [(0x25b3, "TRIANGLE;;SMALL TRIANGLE"), (0x25ec, "TRIANGLE WITH DOT")]⟩,
  ⟨"WHITE RIGHT-POINTING ", [(0x25b7, "TRIANGLE;;SMALL TRIANGLE;;POINTER"), (0x2b54, "PENTAGON")]⟩,
  ⟨"WHITE LEFT-POINTING ", [(0x25c1, "TRIANGLE;;SMALL TRIANGLE;;POINTER")]⟩,
  ⟨"WHITE DIAMOND ", [
    (0x25c8, "CONTAINING BLACK SMALL DIAMOND"), (0x2662, "SUIT"), (0x26cb, "IN SQUARE"),
    (0x27d0, "WITH CENTRED DOT")]⟩,
  ⟨"DOTTED ", [(0x25cc, "CIRCLE"), (0x2999, "FENCE"), (0x2b1a, "SQUARE")]⟩,
  ⟨"CIRCLE WITH ", [
    (0x25cd, "VERTICAL FILL;;;LEFT HALF BLACK;RIGHT HALF BLACK;LOWER HALF BLACK"),
    (0x25d3, "UPPER HALF BLACK;UPPER RIGHT QUADRANT BLACK;ALL BUT UPPER LEFT QUADRANT BLACK"),
    (0x29b5, "HORIZONTAL BAR;;;;;;SUPERIMPOSED X;;;;;;;SMALL CIRCLE TO THE RIGHT"),
    (0x29c3, "TWO HORIZONTAL STROKES TO THE RIGHT")]⟩,
  ⟨"LOWER RIGHT ", [
    (0x25de, "QUADRANT CIRCULAR ARC"), (0x25ff, "TRIANGLE"), (0x270e, "PENCIL"),
    (0x274f, "DROP-SHADOWED WHITE SQUARE;;SHADOWED WHITE SQUARE"), (0x27d3, "CORNER WITH DOT"),
    (0x293e, "SEMICIRCULAR CLOCKWISE ARROW")]⟩,
  ⟨"UP-POINTING ", [(0x25ed, "TRIANGLE WITH LEFT HALF BLACK;TRIANGLE WITH RIGHT HALF BLACK")]⟩,
  ⟨"LARGE ", [
    (0x25ef, "CIRCLE"), (0x27d8, "UP TACK;DOWN TACK"), (0x2a1e, "LEFT TRIANGLE OPERATOR"),
    (0x2afc, "TRIPLE VERTICAL BAR OPERATOR")]⟩,
  ⟨"WHITE CIRCLE WITH ", [
    (0x25f4, "UPPER LEFT QUADRANT;LOWER LEFT QUADRANT;LOWER RIGHT QUADRANT;UPPER RIGHT QUADRANT"),
    (0x2686, "DOT RIGHT;TWO DOTS"), (0x29ec, "DOWN ARROW")]⟩,
  ⟨"WHITE MEDIUM ", [
    (0x25fb, "SQUARE;;SMALL SQUARE"), (0x2b26, "DIAMOND;;LOZENGE"), (0x2b50, "STAR")]⟩,
  ⟨"BALLOT ", [
    (0x2610, "BOX;BOX WITH CHECK;BOX WITH X"), (0x2717, "X"), (0x2bbd, "BOX WITH LIGHT X")]⟩,
  ⟨"CROSS ", [(0x2628, "OF LORRAINE;OF JERUSALEM"), (0x274c, "MARK")]⟩,
  ⟨"STAR ", [
    (0x262a, "AND CRESCENT"), (0x2721, "OF DAVID"), (0x2bea, "WITH LEFT HALF BLACK"),
    (0x2beb, "WITH RIGHT HALF BLACK")]⟩,
  ⟨"TRIGRAM FOR ", [(0x2630, "HEAVEN;LAKE;FIRE;THUNDER;WIND;WATER;MOUNTAIN;EARTH")]⟩,
  ⟨"MALE ", [
    (0x2642, "SIGN"), (0x26a5, "AND FEMALE SIGN;WITH STROKE SIGN"),
    (0x26a7, "WITH STROKE AND MALE AND FEMALE SIGN")]⟩,
  ⟨"WHITE CHESS ", [(0x2654, "KING;QUEEN;ROOK;BISHOP;KNIGHT;PAWN")]⟩,
  ⟨"BLACK CHESS ", [(0x265a, "KING;QUEEN;ROOK;BISHOP;KNIGHT;PAWN")]⟩,
  ⟨"BLACK DIAMOND ", [
    (0x2666, "SUIT"), (0x2756, "MINUS WHITE X"), (0x29ea, "WITH DOWN ARROW"), (0x2bc1, "CENTRED"),
    (0x2bde, "ON CROSS")]⟩,
  ⟨"MUSIC ", [(0x266d, "FLAT SIGN;NATURAL SIGN;SHARP SIGN")]⟩,
  ⟨"RECYCLING SYMBOL ", [
    (0x2673, "FOR TYPE-1 PLASTICS;FOR TYPE-2 PLASTICS;FOR TYPE-3 PLASTICS;FOR TYPE-4 PLASTICS"),
    (0x2677, "FOR TYPE-5 PLASTICS;FOR TYPE-6 PLASTICS;FOR TYPE-7 PLASTICS;FOR GENERIC MATERIALS")]⟩,
  ⟨"DIE ", [(0x2680, "FACE-1;FACE-2;FACE-3;FACE-4;FACE-5;FACE-6")]⟩,
  ⟨"DIGRAM ", [(0x268c, "FOR GREATER YANG;FOR LESSER YIN;FOR LESSER YANG;FOR GREATER YIN")]⟩,
  ⟨"OUTLINED ", [
    (0x269d, "WHITE STAR"), (0x2719, "GREEK CROSS;;;;;;LATIN CROSS"), (0x272d, "BLACK STAR")]⟩,
  ⟨"THREE ", [
    (0x269e, "LINES CONVERGING RIGHT;LINES CONVERGING LEFT"), (0x27c0, "DIMENSIONAL ANGLE"),
    (0x2a76, "CONSECUTIVE EQUALS SIGNS"), (0x2b31, "LEFTWARDS ARROWS")]⟩,
  ⟨"DOUBLED ", [(0x26a2, "FEMALE SIGN;MALE SIGN"), (0x2bfc, "SYMBOL")]⟩,
  ⟨"SQUARED ", [
    (0x26bf, "KEY"), (0x26dd, "SALTIRE"), (0x27ce, "LOGICAL AND;LOGICAL OR"),
    (0x29c4, "RISING DIAGONAL SLASH;FALLING DIAGONAL SLASH;ASTERISK;SMALL CIRCLE;SQUARE")]⟩,
  ⟨"HEAVY ", [
    (0x26db, "WHITE DOWN-POINTING TRIANGLE;;;;;;;;CIRCLE WITH STROKE AND TWO DOTS ABOVE"),
    (0x2714, "CHECK MARK;;MULTIPLICATION X;;BALLOT X;;GREEK CROSS;;OPEN CENTRE CROSS"),
    (0x2724, "FOUR BALLOON-SPOKED ASTERISK"), (0x272e, "OUTLINED BLACK STAR;;;ASTERISK"),
    (0x2738, "EIGHT POINTED RECTILINEAR BLACK STAR;;;;;TEARDROP-SPOKED ASTERISK"),
    (0x2743, "TEARDROP-SPOKED PINWHEEL ASTERISK;;;CHEVRON SNOWFLAKE;;SPARKLE"),
    (0x274b, "EIGHT TEARDROP-SPOKED PROPELLER ASTERISK"), (0x2757, "EXCLAMATION MARK SYMBOL"),
    (0x275a, "VERTICAL BAR;SINGLE TURNED COMMA QUOTATION MARK ORNAMENT"),
    (0x275c, "SINGLE COMMA QUOTATION MARK ORNAMENT;DOUBLE TURNED COMMA QUOTATION MARK ORNAMENT"),
    (0x275e, "DOUBLE COMMA QUOTATION MARK ORNAMENT;LOW SINGLE COMMA QUOTATION MARK ORNAMENT"),
    (0x2760, "LOW DOUBLE COMMA QUOTATION MARK ORNAMENT;;EXCLAMATION MARK ORNAMENT"),
    (0x2763, "HEART EXCLAMATION MARK ORNAMENT;BLACK HEART"),
    (0x276e, "LEFT-POINTING ANGLE QUOTATION MARK ORNAMENT"),
    (0x276f, "RIGHT-POINTING ANGLE QUOTATION MARK ORNAMENT;LEFT-POINTING ANGLE BRACKET ORNAMENT"),
    (0x2771, "RIGHT-POINTING ANGLE BRACKET ORNAMENT"), (0x2794, "WIDE-HEADED RIGHTWARDS ARROW"),
    (0x2795, "PLUS SIGN;MINUS SIGN;DIVISION SIGN;SOUTH EAST ARROW;RIGHTWARDS ARROW"),
    (0x279a, "NORTH EAST ARROW;;ROUND-TIPPED RIGHTWARDS ARROW;;TRIANGLE-HEADED RIGHTWARDS ARROW"),
    (0x27a0, "DASHED TRIANGLE-HEADED RIGHTWARDS ARROW"),
    (0x27a5, "BLACK CURVED DOWNWARDS AND RIGHTWARDS ARROW"),
    (0x27a6, "BLACK CURVED UPWARDS AND RIGHTWARDS ARROW;;CONCAVE-POINTED BLACK RIGHTWARDS ARROW"),
    (0x27ad, "LOWER RIGHT-SHADOWED WHITE RIGHTWARDS ARROW"),
    (0x27ae, "UPPER RIGHT-SHADOWED WHITE RIGHTWARDS ARROW"),
    (0x27bb, "TEARDROP-SHANKED RIGHTWARDS ARROW;;WEDGE-TAILED RIGHTWARDS ARROW"),
    (0x2b55, "LARGE CIRCLE;OVAL WITH OVAL INSIDE;CIRCLE WITH CIRCLE INSIDE;CIRCLE"),
    (0x2b59, "CIRCLED SALTIRE")]⟩,
  ⟨"FALLING ", [
    (0x26de, "DIAGONAL IN WHITE CIRCLE IN BLACK SQUARE"),
    (0x292c, "DIAGONAL CROSSING RISING DIAGONAL;;;DIAGONAL CROSSING NORTH EAST ARROW")]⟩,
  ⟨"MULTIPLICATION ", [
    (0x2715, "X"), (0x2a30, "SIGN WITH DOT ABOVE;SIGN WITH UNDERBAR;;;SIGN IN LEFT HALF CIRCLE"),
    (0x2a35, "SIGN IN RIGHT HALF CIRCLE;;SIGN IN DOUBLE CIRCLE;;;;SIGN IN TRIANGLE")]⟩,
  ⟨"OPEN CENTRE ", [
    (0x271b, "CROSS"), (0x272b, "BLACK STAR;;;;;;;ASTERISK"),
    (0x273c, "TEARDROP-SPOKED ASTERISK")]⟩,
  ⟨"SHADOWED ", [(0x271e, "WHITE LATIN CROSS"), (0x2730, "WHITE STAR"), (0x274d, "WHITE CIRCLE")]⟩,
  ⟨"FOUR ", [
    (0x2722, "TEARDROP-SPOKED ASTERISK;BALLOON-SPOKED ASTERISK;;CLUB-SPOKED ASTERISK"),
    (0x2b94, "CORNER ARROWS CIRCLING ANTICLOCKWISE")]⟩,
  ⟨"EIGHT ", [
    (0x2733, "SPOKED ASTERISK;POINTED BLACK STAR;POINTED PINWHEEL STAR"),
    (0x2737, "POINTED RECTILINEAR BLACK STAR"), (0x2741, "PETALLED OUTLINED BLACK FLORETTE"),
    (0x274a, "TEARDROP-SPOKED PROPELLER ASTERISK")]⟩,
  ⟨"NEGATIVE ", [(0x274e, "SQUARED CROSS MARK")]⟩,
  ⟨"ROTATED ", [
    (0x2765, "HEAVY BLACK HEART BULLET;;FLORAL HEART BULLET"),
    (0x2bcd, "LIGHT FOUR POINTED BLACK CUSP;;WHITE FOUR POINTED CUSP")]⟩,
  ⟨"DINGBAT NEGATIVE CIRCLED DIGIT ", [(0x2776, "ONE;TWO;THREE;FOUR;FIVE;SIX;SEVEN;EIGHT;NINE")]⟩,
  ⟨"DINGBAT NEGATIVE CIRCLED ", [(0x277f, "NUMBER TEN")]⟩,
  ⟨"DINGBAT CIRCLED SANS-SERIF DIGIT ", [(0x2780, "ONE;TWO;THREE;FOUR;FIVE;SIX;SEVEN;EIGHT;NINE")]⟩,
  ⟨"DINGBAT CIRCLED SANS-SERIF ", [(0x2789, "NUMBER TEN")]⟩,
  ⟨"DINGBAT NEGATIVE CIRCLED SANS-SERIF DIGIT ", [
    (0x278a, "ONE;TWO;THREE;FOUR;FIVE;SIX;SEVEN;EIGHT;NINE")]⟩,
  ⟨"DINGBAT NEGATIVE CIRCLED SANS-SERIF ", [(0x2793, "NUMBER TEN")]⟩,
  ⟨"BLACK RIGHTWARDS ", [(0x27a1, "ARROW;;;ARROWHEAD"), (0x2b9e, "EQUILATERAL ARROWHEAD")]⟩,
  ⟨"THREE-D TOP-LIGHTED ", [
    (0x27a2, "RIGHTWARDS ARROWHEAD"), (0x2b98, "LEFTWARDS EQUILATERAL ARROWHEAD"),
    (0x2b9a, "RIGHTWARDS EQUILATERAL ARROWHEAD")]⟩,
  ⟨"THREE-D ", [
    (0x27a3, "BOTTOM-LIGHTED RIGHTWARDS ARROWHEAD"),
    (0x2b99, "RIGHT-LIGHTED UPWARDS EQUILATERAL ARROWHEAD"),
    (0x2b9b, "LEFT-LIGHTED DOWNWARDS EQUILATERAL ARROWHEAD")]⟩,
  ⟨"BLACK-FEATHERED ", [(0x27b4, "SOUTH EAST ARROW;RIGHTWARDS ARROW;NORTH EAST ARROW")]⟩,
  ⟨"HEAVY BLACK-FEATHERED ", [(0x27b7, "SOUTH EAST ARROW;RIGHTWARDS ARROW;NORTH EAST ARROW")]⟩,
  ⟨"REVERSE ", [
    (0x27c8, "SOLIDUS PRECEDING SUBSET"), (0x29f5, "SOLIDUS OPERATOR"),
    (0x29f7, "SOLIDUS WITH HORIZONTAL STROKE"), (0x2b41, "TILDE OPERATOR ABOVE LEFTWARDS ARROW"),
    (0x2b47, "TILDE OPERATOR ABOVE RIGHTWARDS ARROW")]⟩,
  ⟨"SUPERSET ", [
    (0x27c9, "PRECEDING SOLIDUS"), (0x297b, "ABOVE LEFTWARDS ARROW"), (0x2abe, "WITH DOT"),
    (0x2ac0, "WITH PLUS SIGN BELOW;;WITH MULTIPLICATION SIGN BELOW"),
    (0x2ac4, "OF OR EQUAL TO WITH DOT ABOVE;;OF ABOVE EQUALS SIGN;;OF ABOVE TILDE OPERATOR"),
    (0x2aca, "OF ABOVE ALMOST EQUAL TO;;OF ABOVE NOT EQUAL TO;;;;;;;;ABOVE SUBSET"),
    (0x2ad6, "ABOVE SUPERSET;BESIDE SUBSET;BESIDE AND JOINED BY DASH WITH SUBSET")]⟩,
  ⟨"MATHEMATICAL ", [
    (0x27cb, "RISING DIAGONAL;;FALLING DIAGONAL"), (0x27e6, "LEFT WHITE SQUARE BRACKET"),
    (0x27e7, "RIGHT WHITE SQUARE BRACKET;LEFT ANGLE BRACKET;RIGHT ANGLE BRACKET"),
    (0x27ea, "LEFT DOUBLE ANGLE BRACKET;RIGHT DOUBLE ANGLE BRACKET"),
    (0x27ec, "LEFT WHITE TORTOISE SHELL BRACKET;RIGHT WHITE TORTOISE SHELL BRACKET"),
    (0x27ee, "LEFT FLATTENED PARENTHESIS;RIGHT FLATTENED PARENTHESIS")]⟩,
  ⟨"LONG ", [
    (0x27cc, "DIVISION"), (0x27dd, "RIGHT TACK;LEFT TACK"), (0x27f7, "LEFT RIGHT ARROW"),
    (0x27fa, "LEFT RIGHT DOUBLE ARROW"), (0x2ae6, "DASH FROM LEFT MEMBER OF DOUBLE VERTICAL")]⟩,
  ⟨"WHITE CONCAVE-SIDED ", [
    (0x27e1, "DIAMOND;DIAMOND WITH LEFTWARDS TICK;DIAMOND WITH RIGHTWARDS TICK")]⟩,
  ⟨"UPWARDS ", [
    (0x27f0, "QUADRUPLE ARROW"), (0x2909, "ARROW WITH HORIZONTAL STROKE;TRIPLE ARROW"),
    (0x2912, "ARROW TO BAR"), (0x2949, "TWO-HEADED ARROW FROM SMALL CIRCLE"),
    (0x2b06, "BLACK ARROW"), (0x2b89, "BLACK CIRCLED WHITE ARROW"),
    (0x2bb8, "WHITE ARROW FROM BAR WITH HORIZONTAL BAR"),
    (0x2bed, "TWO-HEADED ARROW WITH TRIANGLE ARROWHEADS")]⟩,
  ⟨"DOWNWARDS ", [
    (0x27f1, "QUADRUPLE ARROW"), (0x2908, "ARROW WITH HORIZONTAL STROKE;;;TRIPLE ARROW"),
    (0x2913, "ARROW TO BAR"), (0x2b07, "BLACK ARROW"), (0x2b8b, "BLACK CIRCLED WHITE ARROW"),
    (0x2bef, "TWO-HEADED ARROW WITH TRIANGLE ARROWHEADS")]⟩,
  ⟨"ANTICLOCKWISE ", [
    (0x27f2, "GAPPED CIRCLE ARROW"), (0x2940, "CLOSED CIRCLE ARROW"), (0x2a11, "INTEGRATION")]⟩,
  ⟨"CLOCKWISE ", [
    (0x27f3, "GAPPED CIRCLE ARROW"), (0x2941, "CLOSED CIRCLE ARROW"),
    (0x2b6e, "TRIANGLE-HEADED OPEN CIRCLE ARROW")]⟩,
  ⟨"LONG LEFTWARDS ", [
    (0x27f5, "ARROW;;;DOUBLE ARROW;;;ARROW FROM BAR;;DOUBLE ARROW FROM BAR"),
    (0x2b33, "SQUIGGLE ARROW")]⟩,
  ⟨"LONG RIGHTWARDS ", [
    (0x27f6, "ARROW;;;DOUBLE ARROW;;;ARROW FROM BAR;;DOUBLE ARROW FROM BAR;SQUIGGLE ARROW")]⟩,
  ⟨"RIGHTWARDS TWO-HEADED ARROW ", [
    (0x2900, "WITH VERTICAL STROKE;WITH DOUBLE VERTICAL STROKE;;;;FROM BAR"),
    (0x2916, "WITH TAIL;WITH TAIL WITH VERTICAL STROKE;WITH TAIL WITH DOUBLE VERTICAL STROKE"),
    (0x2bee, "WITH TRIANGLE ARROWHEADS")]⟩,
  ⟨"LEFTWARDS ", [
    (0x2902, "DOUBLE ARROW WITH VERTICAL STROKE;;;;DOUBLE ARROW FROM BAR;;;;;;DOUBLE DASH ARROW"),
    (0x290e, "TRIPLE DASH ARROW"), (0x2919, "ARROW-TAIL;;DOUBLE ARROW-TAIL"),
    (0x2b05, "BLACK ARROW"), (0x2b45, "QUADRUPLE ARROW"), (0x2b88, "BLACK CIRCLED WHITE ARROW")]⟩,
  ⟨"RIGHTWARDS ", [
    (0x2903, "DOUBLE ARROW WITH VERTICAL STROKE;;;;DOUBLE ARROW FROM BAR;;;;;;DOUBLE DASH ARROW"),
    (0x290f, "TRIPLE DASH ARROW"), (0x291a, "ARROW-TAIL;;DOUBLE ARROW-TAIL"),
    (0x2b46, "QUADRUPLE ARROW"), (0x2b8a, "BLACK CIRCLED WHITE ARROW"), (0x2b95, "BLACK ARROW")]⟩,
  ⟨"LEFT RIGHT ", [
    (0x2904, "DOUBLE ARROW WITH VERTICAL STROKE"), (0x2948, "ARROW THROUGH SMALL CIRCLE"),
    (0x2b04, "WHITE ARROW;;;;;;;;BLACK ARROW"), (0x2b64, "TRIANGLE-HEADED ARROW")]⟩,
  ⟨"RIGHTWARDS TWO-HEADED ", [(0x2910, "TRIPLE DASH ARROW")]⟩,
  ⟨"RIGHTWARDS ARROW ", [
    (0x2911, "WITH DOTTED STEM;;;WITH TAIL WITH VERTICAL STROKE"),
    (0x2915, "WITH TAIL WITH DOUBLE VERTICAL STROKE"), (0x291e, "TO BLACK DIAMOND"),
    (0x2920, "FROM BAR TO BLACK DIAMOND"), (0x2942, "ABOVE SHORT LEFTWARDS ARROW"),
    (0x2945, "WITH PLUS BELOW;;THROUGH X"), (0x2974, "ABOVE TILDE OPERATOR"),
    (0x2975, "ABOVE ALMOST EQUAL TO"), (0x2b0e, "WITH TIP DOWNWARDS;WITH TIP UPWARDS"),
    (0x2b43, "THROUGH GREATER-THAN;THROUGH SUPERSET;;;;ABOVE REVERSE ALMOST EQUAL TO"),
    (0x2b4c, "ABOVE REVERSE TILDE OPERATOR")]⟩,
  ⟨"LEFTWARDS ARROW ", [
    (0x291d, "TO BLACK DIAMOND;;FROM BAR TO BLACK DIAMOND"),
    (0x2943, "ABOVE SHORT RIGHTWARDS ARROW;;;WITH PLUS BELOW"), (0x2973, "ABOVE TILDE OPERATOR"),
    (0x2977, "THROUGH LESS-THAN;;;THROUGH SUBSET"), (0x2b10, "WITH TIP DOWNWARDS"),
    (0x2b11, "WITH TIP UPWARDS"), (0x2b38, "WITH DOTTED STEM;WITH TAIL WITH VERTICAL STROKE"),
    (0x2b3a, "WITH TAIL WITH DOUBLE VERTICAL STROKE;;;;THROUGH X"),
    (0x2b42, "ABOVE REVERSE ALMOST EQUAL TO;;;;;;;;ABOVE ALMOST EQUAL TO"),
    (0x2b4b, "ABOVE REVERSE TILDE OPERATOR")]⟩,
  ⟨"NORTH WEST ", [
    (0x2921, "AND SOUTH EAST ARROW;;ARROW WITH HOOK;;;;ARROW AND NORTH EAST ARROW"),
    (0x2932, "ARROW CROSSING NORTH EAST ARROW"), (0x2b01, "WHITE ARROW;;;;;;;;BLACK ARROW"),
    (0x2b66, "TRIANGLE-HEADED ARROW"), (0x2b76, "TRIANGLE-HEADED ARROW TO BAR")]⟩,
  ⟨"NORTH EAST ", [
    (0x2922, "AND SOUTH WEST ARROW;;ARROW WITH HOOK;;;;ARROW AND SOUTH EAST ARROW"),
    (0x292e, "ARROW CROSSING SOUTH EAST ARROW;;;ARROW CROSSING NORTH WEST ARROW"),
    (0x2b00, "WHITE ARROW;;;;;;;;BLACK ARROW"), (0x2b67, "TRIANGLE-HEADED ARROW"),
    (0x2b77, "TRIANGLE-HEADED ARROW TO BAR")]⟩,
  ⟨"SOUTH EAST ", [
    (0x2925, "ARROW WITH HOOK;;;;ARROW AND SOUTH WEST ARROW;;;;ARROW CROSSING NORTH EAST ARROW"),
    (0x2b02, "WHITE ARROW;;;;;;;;BLACK ARROW"), (0x2b68, "TRIANGLE-HEADED ARROW"),
    (0x2b78, "TRIANGLE-HEADED ARROW TO BAR")]⟩,
  ⟨"SOUTH WEST ", [
    (0x2926, "ARROW WITH HOOK;;;;ARROW AND NORTH WEST ARROW"), (0x2b03, "WHITE ARROW"),
    (0x2b0b, "BLACK ARROW"), (0x2b69, "TRIANGLE-HEADED ARROW"),
    (0x2b79, "TRIANGLE-HEADED ARROW TO BAR")]⟩,
  ⟨"ARROW POINTING ", [
    (0x2934, "RIGHTWARDS THEN CURVING UPWARDS;RIGHTWARDS THEN CURVING DOWNWARDS"),
    (0x2936, "DOWNWARDS THEN CURVING LEFTWARDS;DOWNWARDS THEN CURVING RIGHTWARDS")]⟩,
  ⟨"SHORT ", [
    (0x2944, "RIGHTWARDS ARROW ABOVE LEFTWARDS ARROW"), (0x2ade, "LEFT TACK;DOWN TACK;UP TACK"),
    (0x2ae7, "DOWN TACK WITH OVERBAR;UP TACK WITH UNDERBAR;UP TACK ABOVE SHORT DOWN TACK"),
    (0x2b4e, "SLANTED NORTH ARROW;BACKSLANTED SOUTH ARROW"),
    (0x2b5f, "BENT ARROW POINTING DOWNWARDS THEN NORTH EAST")]⟩,
  ⟨"UP BARB ", [
    (0x294c, "RIGHT DOWN BARB LEFT HARPOON;LEFT DOWN BARB RIGHT HARPOON"),
    (0x294f, "RIGHT DOWN BARB RIGHT HARPOON;;LEFT DOWN BARB LEFT HARPOON")]⟩,
  ⟨"LEFTWARDS HARPOON WITH BARB ", [
    (0x2952, "UP TO BAR;;;;DOWN TO BAR;;;;UP FROM BAR;;;;DOWN FROM BAR"),
    (0x2962, "UP ABOVE LEFTWARDS HARPOON WITH BARB DOWN"),
    (0x2966, "UP ABOVE RIGHTWARDS HARPOON WITH BARB UP"),
    (0x2967, "DOWN ABOVE RIGHTWARDS HARPOON WITH BARB DOWN;;;UP ABOVE LONG DASH"),
    (0x296b, "DOWN BELOW LONG DASH")]⟩,
  ⟨"RIGHTWARDS HARPOON WITH BARB ", [
    (0x2953, "UP TO BAR;;;;DOWN TO BAR;;;;UP FROM BAR;;;;DOWN FROM BAR"),
    (0x2964, "UP ABOVE RIGHTWARDS HARPOON WITH BARB DOWN"),
    (0x2968, "UP ABOVE LEFTWARDS HARPOON WITH BARB UP"),
    (0x2969, "DOWN ABOVE LEFTWARDS HARPOON WITH BARB DOWN;;;UP ABOVE LONG DASH"),
    (0x296d, "DOWN BELOW LONG DASH")]⟩,
  ⟨"UPWARDS HARPOON ", [
    (0x2954, "WITH BARB RIGHT TO BAR;;;;WITH BARB LEFT TO BAR;;;;WITH BARB RIGHT FROM BAR"),
    (0x2960, "WITH BARB LEFT FROM BAR;;;WITH BARB LEFT BESIDE UPWARDS HARPOON WITH BARB RIGHT"),
    (0x296e, "WITH BARB LEFT BESIDE DOWNWARDS HARPOON WITH BARB RIGHT")]⟩,
  ⟨"DOWNWARDS HARPOON ", [
    (0x2955, "WITH BARB RIGHT TO BAR;;;;WITH BARB LEFT TO BAR;;;;WITH BARB RIGHT FROM BAR"),
    (0x2961, "WITH BARB LEFT FROM BAR"),
    (0x2965, "WITH BARB LEFT BESIDE DOWNWARDS HARPOON WITH BARB RIGHT"),
    (0x296f, "WITH BARB LEFT BESIDE UPWARDS HARPOON WITH BARB RIGHT")]⟩,
  ⟨"EQUALS SIGN ", [
    (0x2971, "ABOVE RIGHTWARDS ARROW"), (0x29e3, "AND SLANTED PARALLEL"),
    (0x29e4, "AND SLANTED PARALLEL WITH TILDE ABOVE"), (0x2a66, "WITH DOT BELOW"),
    (0x2a71, "ABOVE PLUS SIGN;;ABOVE TILDE OPERATOR;;;;WITH TWO DOTS ABOVE AND TWO DOTS BELOW"),
    (0x2aae, "WITH BUMPY ABOVE"), (0x2b40, "ABOVE LEFTWARDS ARROW"),
    (0x2bf9, "WITH INFINITY BELOW")]⟩,
  ⟨"TILDE OPERATOR ", [
    (0x2972, "ABOVE RIGHTWARDS ARROW"), (0x2a6a, "WITH DOT ABOVE;WITH RISING DOTS"),
    (0x2b49, "ABOVE LEFTWARDS ARROW")]⟩,
  ⟨"LESS-THAN ABOVE ", [
    (0x2976, "LEFTWARDS ARROW"), (0x2a8b, "DOUBLE-LINE EQUAL ABOVE GREATER-THAN"),
    (0x2a8d, "SIMILAR OR EQUAL;;SIMILAR ABOVE GREATER-THAN"),
    (0x2a91, "GREATER-THAN ABOVE DOUBLE-LINE EQUAL"),
    (0x2a93, "SLANTED EQUAL ABOVE GREATER-THAN ABOVE SLANTED EQUAL")]⟩,
  ⟨"GREATER-THAN ABOVE ", [
    (0x2978, "RIGHTWARDS ARROW"), (0x2a8c, "DOUBLE-LINE EQUAL ABOVE LESS-THAN;;SIMILAR OR EQUAL"),
    (0x2a90, "SIMILAR ABOVE LESS-THAN;;LESS-THAN ABOVE DOUBLE-LINE EQUAL"),
    (0x2a94, "SLANTED EQUAL ABOVE LESS-THAN ABOVE SLANTED EQUAL")]⟩,
  ⟨"SUBSET ", [
    (0x2979, "ABOVE RIGHTWARDS ARROW"), (0x2abd, "WITH DOT;;WITH PLUS SIGN BELOW"),
    (0x2ac1, "WITH MULTIPLICATION SIGN BELOW;;OF OR EQUAL TO WITH DOT ABOVE"),
    (0x2ac5, "OF ABOVE EQUALS SIGN;;OF ABOVE TILDE OPERATOR;;OF ABOVE ALMOST EQUAL TO"),
    (0x2acb, "OF ABOVE NOT EQUAL TO;;;;;;;;ABOVE SUPERSET;;ABOVE SUBSET")]⟩,
  ⟨"TRIPLE ", [
    (0x2980, "VERTICAL BAR DELIMITER"), (0x29fb, "PLUS"),
    (0x2a68, "HORIZONTAL BAR WITH DOUBLE VERTICAL STROKE"),
    (0x2a69, "HORIZONTAL BAR WITH TRIPLE VERTICAL STROKE"),
    (0x2af4, "VERTICAL BAR BINARY RELATION;VERTICAL BAR WITH HORIZONTAL STROKE;COLON OPERATOR"),
    (0x2af7, "NESTED LESS-THAN;NESTED GREATER-THAN;;;SOLIDUS BINARY RELATION")]⟩,
  ⟨"Z NOTATION ", [
    (0x2981, "SPOT;TYPE COLON;;;;;LEFT IMAGE BRACKET;RIGHT IMAGE BRACKET;LEFT BINDING BRACKET"),
    (0x298a, "RIGHT BINDING BRACKET"), (0x2a1f, "SCHEMA COMPOSITION;SCHEMA PIPING"),
    (0x2a21, "SCHEMA PROJECTION"), (0x2a3e, "RELATIONAL COMPOSITION"),
    (0x2a64, "DOMAIN ANTIRESTRICTION;RANGE ANTIRESTRICTION")]⟩,
  ⟨"MEASURED ANGLE ", [(0x299b, "OPENING LEFT")]⟩,
  ⟨"MEASURED ", [(0x299d, "RIGHT ANGLE WITH DOT")]⟩,
  ⟨"MEASURED ANGLE WITH OPEN ARM ENDING IN ARROW POINTING ", [
    (0x29a8, "UP AND RIGHT;UP AND LEFT;DOWN AND RIGHT;DOWN AND LEFT;RIGHT AND UP;LEFT AND UP"),
    (0x29ae, "RIGHT AND DOWN;LEFT AND DOWN")]⟩,
  ⟨"EMPTY ", [
    (0x29b1, "SET WITH OVERBAR;SET WITH SMALL CIRCLE ABOVE;SET WITH RIGHT ARROW ABOVE"),
    (0x29b4, "SET WITH LEFT ARROW ABOVE")]⟩,
  ⟨"CIRCLE ", [(0x29ba, "DIVIDED BY HORIZONTAL BAR AND TOP HALF DIVIDED BY VERTICAL BAR")]⟩,
  ⟨"TWO ", [
    (0x29c9, "JOINED SQUARES"), (0x2a07, "LOGICAL AND OPERATOR;LOGICAL OR OPERATOR"),
    (0x2a55, "INTERSECTING LOGICAL AND;INTERSECTING LOGICAL OR"),
    (0x2a75, "CONSECUTIVE EQUALS SIGNS")]⟩,
  ⟨"TRIANGLE ", [(0x29ca, "WITH DOT ABOVE;WITH UNDERBAR;;WITH SERIFS AT BOTTOM")]⟩,
  ⟨"DOWN-POINTING ", [(0x29e8, "TRIANGLE WITH LEFT HALF BLACK;TRIANGLE WITH RIGHT HALF BLACK")]⟩,
  ⟨"ERROR-BARRED ", [
    (0x29ee, "WHITE SQUARE;BLACK SQUARE;WHITE DIAMOND;BLACK DIAMOND;WHITE CIRCLE;BLACK CIRCLE")]⟩,
  ⟨"N-ARY ", [
    (0x2a00, "CIRCLED DOT OPERATOR;CIRCLED PLUS OPERATOR;CIRCLED TIMES OPERATOR"),
    (0x2a03, "UNION OPERATOR WITH DOT;UNION OPERATOR WITH PLUS;SQUARE INTERSECTION OPERATOR"),
    (0x2a06, "SQUARE UNION OPERATOR;;;TIMES OPERATOR"), (0x2aff, "WHITE VERTICAL BAR")]⟩,
  ⟨"INTEGRAL WITH ", [
    (0x2a0e, "DOUBLE STROKE"), (0x2a17, "LEFTWARDS ARROW WITH HOOK;TIMES SIGN;INTERSECTION"),
    (0x2a1a, "UNION;OVERBAR;UNDERBAR")]⟩,
  ⟨"LINE INTEGRATION ", [
    (0x2a12, "WITH RECTANGULAR PATH AROUND POLE;WITH SEMICIRCULAR PATH AROUND POLE"),
    (0x2a14, "NOT INCLUDING THE POLE")]⟩,
  ⟨"PLUS SIGN WITH ", [
    (0x2a22, "SMALL CIRCLE ABOVE;CIRCUMFLEX ACCENT ABOVE;TILDE ABOVE;DOT BELOW;TILDE BELOW"),
    (0x2a27, "SUBSCRIPT TWO;BLACK TRIANGLE")]⟩,
  ⟨"MINUS SIGN ", [
    (0x2a29, "WITH COMMA ABOVE;WITH DOT BELOW;WITH FALLING DOTS;WITH RISING DOTS"),
    (0x2a3a, "IN TRIANGLE")]⟩,
  ⟨"PLUS SIGN ", [
    (0x2a2d, "IN LEFT HALF CIRCLE;IN RIGHT HALF CIRCLE"), (0x2a39, "IN TRIANGLE"),
    (0x2a72, "ABOVE EQUALS SIGN")]⟩,
  ⟨"INTERSECTION ", [
    (0x2a40, "WITH DOT;;;WITH OVERBAR;WITH LOGICAL AND;;;ABOVE UNION;;ABOVE BAR ABOVE UNION"),
    (0x2a4b, "BESIDE AND JOINED WITH INTERSECTION")]⟩,
  ⟨"UNION ", [
    (0x2a41, "WITH MINUS SIGN;WITH OVERBAR;;;WITH LOGICAL OR;ABOVE INTERSECTION"),
    (0x2a48, "ABOVE BAR ABOVE INTERSECTION;;BESIDE AND JOINED WITH UNION")]⟩,
  ⟨"CLOSED ", [
    (0x2a4c, "UNION WITH SERIFS;INTERSECTION WITH SERIFS;;;UNION WITH SERIFS AND SMASH PRODUCT"),
    (0x2acf, "SUBSET;SUPERSET;SUBSET OR EQUAL TO;SUPERSET OR EQUAL TO")]⟩,
  ⟨"LOGICAL AND WITH ", [
    (0x2a51, "DOT ABOVE"), (0x2a5a, "MIDDLE STEM;;HORIZONTAL DASH;;DOUBLE OVERBAR;UNDERBAR"),
    (0x2a60, "DOUBLE UNDERBAR")]⟩,
  ⟨"LOGICAL ", [
    (0x2a52, "OR WITH DOT ABOVE;;;;;;;OR OVERLAPPING LOGICAL AND;;OR WITH MIDDLE STEM"),
    (0x2a5d, "OR WITH HORIZONTAL DASH;;;;;OR WITH DOUBLE OVERBAR;OR WITH DOUBLE UNDERBAR")]⟩,
  ⟨"SIMILAR ", [
    (0x2a6c, "MINUS SIMILAR"), (0x2a9d, "OR LESS-THAN;OR GREATER-THAN"),
    (0x2a9f, "ABOVE LESS-THAN ABOVE EQUALS SIGN;ABOVE GREATER-THAN ABOVE EQUALS SIGN")]⟩,
  ⟨"EQUALS ", [(0x2a6e, "WITH ASTERISK")]⟩,
  ⟨"LESS-THAN ", [
    (0x2a79, "WITH CIRCLE INSIDE;;WITH QUESTION MARK ABOVE;;OR SLANTED EQUAL TO"),
    (0x2a7f, "OR SLANTED EQUAL TO WITH DOT INSIDE;;OR SLANTED EQUAL TO WITH DOT ABOVE"),
    (0x2a83, "OR SLANTED EQUAL TO WITH DOT ABOVE RIGHT;;OR APPROXIMATE"),
    (0x2a87, "AND SINGLE-LINE NOT EQUAL TO;;AND NOT APPROXIMATE"), (0x2aa6, "CLOSED BY CURVE"),
    (0x2aa8, "CLOSED BY CURVE ABOVE SLANTED EQUAL")]⟩,
  ⟨"GREATER-THAN ", [
    (0x2a7a, "WITH CIRCLE INSIDE;;WITH QUESTION MARK ABOVE;;OR SLANTED EQUAL TO"),
    (0x2a80, "OR SLANTED EQUAL TO WITH DOT INSIDE;;OR SLANTED EQUAL TO WITH DOT ABOVE"),
    (0x2a84, "OR SLANTED EQUAL TO WITH DOT ABOVE LEFT;;OR APPROXIMATE"),
    (0x2a88, "AND SINGLE-LINE NOT EQUAL TO;;AND NOT APPROXIMATE"),
    (0x2aa4, "OVERLAPPING LESS-THAN;BESIDE LESS-THAN;;CLOSED BY CURVE"),
    (0x2aa9, "CLOSED BY CURVE ABOVE SLANTED EQUAL")]⟩,
  ⟨"SLANTED ", [
    (0x2a95, "EQUAL TO OR LESS-THAN;EQUAL TO OR GREATER-THAN"),
    (0x2a97, "EQUAL TO OR LESS-THAN WITH DOT INSIDE;EQUAL TO OR GREATER-THAN WITH DOT INSIDE"),
    (0x2b5a, "NORTH ARROW WITH HOOKED HEAD;;NORTH ARROW WITH HORIZONTAL TAIL")]⟩,
  ⟨"DOUBLE-LINE ", [(0x2a99, "EQUAL TO OR LESS-THAN;EQUAL TO OR GREATER-THAN")]⟩,
  ⟨"DOUBLE-LINE SLANTED ", [
    (0x2a9b, "EQUAL TO OR LESS-THAN;EQUAL TO OR GREATER-THAN"), (0x2af9, "LESS-THAN OR EQUAL TO"),
    (0x2afa, "GREATER-THAN OR EQUAL TO")]⟩,
  ⟨"PRECEDES ABOVE ", [
    (0x2aaf, "SINGLE-LINE EQUALS SIGN;;SINGLE-LINE NOT EQUAL TO;;EQUALS SIGN;;NOT EQUAL TO"),
    (0x2ab7, "ALMOST EQUAL TO;;NOT ALMOST EQUAL TO")]⟩,
  ⟨"SUCCEEDS ABOVE ", [
    (0x2ab0, "SINGLE-LINE EQUALS SIGN;;SINGLE-LINE NOT EQUAL TO;;EQUALS SIGN;;NOT EQUAL TO"),
    (0x2ab8, "ALMOST EQUAL TO;;NOT ALMOST EQUAL TO")]⟩,
  ⟨"DIAMOND ", [
    (0x2b16, "WITH LEFT HALF BLACK;WITH RIGHT HALF BLACK;WITH TOP HALF BLACK"),
    (0x2b19, "WITH BOTTOM HALF BLACK")]⟩,
  ⟨"LEFTWARDS TWO-HEADED ARROW ", [
    (0x2b34, "WITH VERTICAL STROKE;WITH DOUBLE VERTICAL STROKE;FROM BAR;;;;;WITH TAIL"),
    (0x2b3c, "WITH TAIL WITH VERTICAL STROKE;WITH TAIL WITH DOUBLE VERTICAL STROKE"),
    (0x2bec, "WITH TRIANGLE ARROWHEADS")]⟩,
  ⟨"LEFTWARDS TWO-HEADED ", [(0x2b37, "TRIPLE DASH ARROW")]⟩,
  ⟨"DOWNWARDS TRIANGLE-HEADED ", [
    (0x2b4d, "ZIGZAG ARROW"), (0x2b63, "ARROW"), (0x2b6d, "DASHED ARROW;;;;;;ARROW TO BAR"),
    (0x2b7d, "ARROW WITH DOUBLE HORIZONTAL STROKE"),
    (0x2b83, "ARROW LEFTWARDS OF UPWARDS TRIANGLE-HEADED ARROW;;;;PAIRED ARROWS"),
    (0x2ba0, "ARROW WITH LONG TIP LEFTWARDS;ARROW WITH LONG TIP RIGHTWARDS")]⟩,
  ⟨"BACKSLANTED ", [(0x2b5b, "SOUTH ARROW WITH HOOKED TAIL;;SOUTH ARROW WITH HORIZONTAL TAIL")]⟩,
  ⟨"LEFTWARDS TRIANGLE-HEADED ", [
    (0x2b60, "ARROW"), (0x2b6a, "DASHED ARROW;;;;;;ARROW TO BAR"),
    (0x2b7a, "ARROW WITH DOUBLE HORIZONTAL STROKE"),
    (0x2b80, "ARROW OVER RIGHTWARDS TRIANGLE-HEADED ARROW;;;;PAIRED ARROWS"),
    (0x2ba4, "ARROW WITH LONG TIP UPWARDS;;ARROW WITH LONG TIP DOWNWARDS")]⟩,
  ⟨"UPWARDS TRIANGLE-HEADED ", [
    (0x2b61, "ARROW"), (0x2b6b, "DASHED ARROW;;;;;;ARROW TO BAR"),
    (0x2b7b, "ARROW WITH DOUBLE HORIZONTAL STROKE"),
    (0x2b81, "ARROW LEFTWARDS OF DOWNWARDS TRIANGLE-HEADED ARROW;;;;PAIRED ARROWS"),
    (0x2ba2, "ARROW WITH LONG TIP LEFTWARDS;ARROW WITH LONG TIP RIGHTWARDS")]⟩,
  ⟨"RIGHTWARDS TRIANGLE-HEADED ", [
    (0x2b62, "ARROW"), (0x2b6c, "DASHED ARROW;;;;;;ARROW TO BAR"),
    (0x2b7c, "ARROW WITH DOUBLE HORIZONTAL STROKE"),
    (0x2b82, "ARROW OVER LEFTWARDS TRIANGLE-HEADED ARROW;;;;PAIRED ARROWS"),
    (0x2ba5, "ARROW WITH LONG TIP UPWARDS;;ARROW WITH LONG TIP DOWNWARDS")]⟩,
  ⟨"ANTICLOCKWISE TRIANGLE-HEADED ", [
    (0x2b6f, "OPEN CIRCLE ARROW"), (0x2b8c, "RIGHT U-SHAPED ARROW;BOTTOM U-SHAPED ARROW"),
    (0x2b8e, "LEFT U-SHAPED ARROW;TOP U-SHAPED ARROW")]⟩,
  ⟨"BLACK CURVED ", [
    (0x2ba8, "DOWNWARDS AND LEFTWARDS ARROW;DOWNWARDS AND RIGHTWARDS ARROW"),
    (0x2baa, "UPWARDS AND LEFTWARDS ARROW;UPWARDS AND RIGHTWARDS ARROW"),
    (0x2bac, "LEFTWARDS AND UPWARDS ARROW;RIGHTWARDS AND UPWARDS ARROW"),
    (0x2bae, "LEFTWARDS AND DOWNWARDS ARROW;RIGHTWARDS AND DOWNWARDS ARROW")]⟩,
  ⟨"RIBBON ARROW ", [
    (0x2bb0, "DOWN LEFT;DOWN RIGHT;UP LEFT;UP RIGHT;LEFT UP;RIGHT UP;LEFT DOWN;RIGHT DOWN")]⟩,
  ⟨"OVERLAPPING ", [(0x2bba, "WHITE SQUARES;WHITE AND BLACK SQUARES;BLACK SQUARES")]⟩,
  ⟨"PLUTO ", [(0x2bd3, "FORM TWO;FORM THREE;FORM FOUR;FORM FIVE")]⟩,
  ⟨"RUSSIAN ASTROLOGICAL SYMBOL ", [
    (0x2bf3, "VIGINTILE;NOVILE;QUINTILE;BINOVILE;SENTAGON;TREDECILE")]⟩]

end ReceiptRules.Text.CharacterName
