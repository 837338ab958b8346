import ReceiptRules.Text.CharacterName.Naming

/-!
# Names of Latin to Arabic characters

The characters up to 0x8ff, which are those of the scripts around the Mediterranean, and the additions
to the Latin and Greek ones from 0x1d00 to 0x1fff.
-/

namespace ReceiptRules.Text.CharacterName

def latin : List Family := [
  ⟨"", [
    (0x20, "SPACE;EXCLAMATION MARK;QUOTATION MARK;NUMBER SIGN;DOLLAR SIGN;PERCENT SIGN"),
    (0x26, "AMPERSAND;APOSTROPHE;LEFT PARENTHESIS;;ASTERISK;PLUS SIGN;COMMA;HYPHEN-MINUS"),
    (0x2e, "FULL STOP;SOLIDUS"), (0x3a, "COLON;SEMICOLON;LESS-THAN SIGN;EQUALS SIGN"),
    (0x3e, "GREATER-THAN SIGN;QUESTION MARK;COMMERCIAL AT"), (0x5b, "LEFT SQUARE BRACKET"),
    (0x5c, "REVERSE SOLIDUS;;CIRCUMFLEX ACCENT;LOW LINE;GRAVE ACCENT"),
    (0x7b, "LEFT CURLY BRACKET;VERTICAL LINE;;TILDE"), (0xa0, "NO-BREAK SPACE"),
    (0xa1, "INVERTED EXCLAMATION MARK;CENT SIGN;POUND SIGN;CURRENCY SIGN;YEN SIGN;BROKEN BAR"),
    (0xa7, "SECTION SIGN;DIAERESIS;COPYRIGHT SIGN;FEMININE ORDINAL INDICATOR"),
    (0xab, "LEFT-POINTING DOUBLE ANGLE QUOTATION MARK;NOT SIGN;SOFT HYPHEN;REGISTERED SIGN"),
    (0xaf, "MACRON;DEGREE SIGN;PLUS-MINUS SIGN;;;ACUTE ACCENT;MICRO SIGN;PILCROW SIGN"),
    (0xb7, "MIDDLE DOT;CEDILLA;;MASCULINE ORDINAL INDICATOR"),
    (0xbb, "RIGHT-POINTING DOUBLE ANGLE QUOTATION MARK;;;;INVERTED QUESTION MARK"),
    (0xd7, "MULTIPLICATION SIGN"), (0xf7, "DIVISION SIGN"), (0x2c7, "CARON"), (0x2d8, "BREVE"),
    (0x2d9, "DOT ABOVE;RING ABOVE;OGONEK;SMALL TILDE;DOUBLE ACUTE ACCENT"),
    (0x58d, "RIGHT-FACING ARMENIAN ETERNITY SIGN;LEFT-FACING ARMENIAN ETERNITY SIGN"),
    (0x60b, "AFGHANI SIGN")]⟩,
  ⟨"RIGHT ", [(0x29, "PARENTHESIS"), (0x5d, "SQUARE BRACKET"), (0x7d, "CURLY BRACKET")]⟩,
  ⟨"DIGIT ", [(0x30, "ZERO;ONE;TWO;THREE;FOUR;FIVE;SIX;SEVEN;EIGHT;NINE")]⟩,
  ⟨"LATIN CAPITAL LETTER ", [
    (0x41, "A;B;C;D;E;F;G;H;I;J;K;L;M;N;O;P;Q;R;S;T;U;V;W;X;Y;Z"), (0xc6, "AE"), (0xd0, "ETH"),
    (0xde, "THORN"), (0x134, "J WITH CIRCUMFLEX;;K WITH CEDILLA"), (0x14a, "ENG"),
    (0x174, "W WITH CIRCUMFLEX"), (0x181, "B WITH HOOK;B WITH TOPBAR;;TONE SIX;;OPEN O"),
    (0x189, "AFRICAN D;;;;;REVERSED E;SCHWA;OPEN E;F WITH HOOK;;;GAMMA;;IOTA;;K WITH HOOK"),
    (0x19c, "TURNED M;;;;;;OI;;P WITH HOOK;;;TONE TWO;;ESH;;;;;;;;UPSILON;V WITH HOOK;;;;;EZH"),
    (0x1b8, "EZH REVERSED;;;;TONE FIVE;;;;;;;;DZ WITH CARON;;;LJ;;;NJ"),
    (0x1e2, "AE WITH MACRON;;;;;;K WITH CARON;;;;;;EZH WITH CARON;;;DZ;;;;;HWAIR;WYNN"),
    (0x1fc, "AE WITH ACUTE"), (0x21c, "YOGH;;;;;;OU"), (0x241, "GLOTTAL STOP;;B WITH STROKE"),
    (0x245, "TURNED V;;;J WITH STROKE;;SMALL Q WITH HOOK TAIL"), (0x1e02, "B WITH DOT ABOVE"),
    (0x1e04, "B WITH DOT BELOW;;B WITH LINE BELOW"), (0x1e1e, "F WITH DOT ABOVE"),
    (0x1e30, "K WITH ACUTE;;K WITH DOT BELOW;;K WITH LINE BELOW"), (0x1e3e, "M WITH ACUTE"),
    (0x1e40, "M WITH DOT ABOVE;;M WITH DOT BELOW"), (0x1e54, "P WITH ACUTE;;P WITH DOT ABOVE"),
    (0x1e7c, "V WITH TILDE;;V WITH DOT BELOW;;W WITH GRAVE;;W WITH ACUTE;;W WITH DIAERESIS"),
    (0x1e86, "W WITH DOT ABOVE;;W WITH DOT BELOW;;X WITH DOT ABOVE;;X WITH DIAERESIS"),
    (0x1e9e, "SHARP S"), (0x1efa, "MIDDLE-WELSH LL;;MIDDLE-WELSH V")]⟩,
  ⟨"LATIN SMALL LETTER ", [
    (0x61, "A;B;C;D;E;F;G;H;I;J;K;L;M;N;O;P;Q;R;S;T;U;V;W;X;Y;Z"), (0xdf, "SHARP S;;;;;;;AE"),
    (0xf0, "ETH"), (0xfe, "THORN"), (0x131, "DOTLESS I;;;;J WITH CIRCUMFLEX;;K WITH CEDILLA;KRA"),
    (0x14b, "ENG"), (0x175, "W WITH CIRCUMFLEX"), (0x17f, "LONG S;;;;;;TONE SIX"),
    (0x192, "F WITH HOOK;;;HV;;;;K WITH HOOK;;LAMBDA WITH STROKE;;;;;;;;OI;;P WITH HOOK"),
    (0x1a8, "TONE TWO"), (0x1b9, "EZH REVERSED;EZH WITH TAIL;;;TONE FIVE"),
    (0x1c6, "DZ WITH CARON;;;LJ;;;NJ"), (0x1e3, "AE WITH MACRON;;;;;;K WITH CARON"),
    (0x1ef, "EZH WITH CARON;J WITH CARON;;;DZ"), (0x1fd, "AE WITH ACUTE"), (0x21d, "YOGH"),
    (0x223, "OU"), (0x237, "DOTLESS J;DB DIGRAPH;QP DIGRAPH"), (0x242, "GLOTTAL STOP"),
    (0x249, "J WITH STROKE;;Q WITH HOOK TAIL;;;;;;ALPHA;;;OPEN O;;;;;SCHWA;SCHWA WITH HOOK"),
    (0x25b, "OPEN E;;;CLOSED REVERSED OPEN E;DOTLESS J WITH STROKE;;SCRIPT G;;GAMMA;RAMS HORN"),
    (0x267, "HENG WITH HOOK;;IOTA;;;;;LEZH;;;M WITH HOOK;;;;BARRED O;;CLOSED OMEGA;PHI"),
    (0x283, "ESH;DOTLESS J WITH STROKE AND HOOK;SQUAT REVERSED ESH;ESH WITH CURL;;;;UPSILON"),
    (0x28b, "V WITH HOOK;;;;;;;EZH;EZH WITH CURL;;;;;;;CLOSED OPEN E;;;J WITH CROSSED-TAIL"),
    (0x2a0, "Q WITH HOOK;;;DZ DIGRAPH;DEZH DIGRAPH;DZ DIGRAPH WITH CURL;TS DIGRAPH;TESH DIGRAPH"),
    (0x2a8, "TC DIGRAPH WITH CURL;FENG DIGRAPH;LS DIGRAPH;LZ DIGRAPH"), (0x1d16, "TOP HALF O"),
    (0x1d17, "BOTTOM HALF O"), (0x1d6b, "UE;;;F WITH MIDDLE TILDE;M WITH MIDDLE TILDE"),
    (0x1d71, "P WITH MIDDLE TILDE;;;;;;;;INSULAR G;TH WITH STRIKETHROUGH;;IOTA WITH STROKE"),
    (0x1d7d, "P WITH STROKE;;UPSILON WITH STROKE;;;F WITH PALATAL HOOK;;K WITH PALATAL HOOK"),
    (0x1d86, "M WITH PALATAL HOOK;;P WITH PALATAL HOOK;;;ESH WITH PALATAL HOOK"),
    (0x1d8c, "V WITH PALATAL HOOK;X WITH PALATAL HOOK;;;ALPHA WITH RETROFLEX HOOK"),
    (0x1d93, "OPEN E WITH RETROFLEX HOOK;;SCHWA WITH RETROFLEX HOOK;;OPEN O WITH RETROFLEX HOOK"),
    (0x1d98, "ESH WITH RETROFLEX HOOK;;EZH WITH RETROFLEX HOOK"), (0x1e1f, "F WITH DOT ABOVE"),
    (0x1e31, "K WITH ACUTE;;K WITH DOT BELOW;;K WITH LINE BELOW"), (0x1e3f, "M WITH ACUTE"),
    (0x1e41, "M WITH DOT ABOVE;;M WITH DOT BELOW"), (0x1e55, "P WITH ACUTE;;P WITH DOT ABOVE"),
    (0x1e7d, "V WITH TILDE;;V WITH DOT BELOW;;W WITH GRAVE;;W WITH ACUTE;;W WITH DIAERESIS"),
    (0x1e87, "W WITH DOT ABOVE;;W WITH DOT BELOW;;X WITH DOT ABOVE;;X WITH DIAERESIS"),
    (0x1e98, "W WITH RING ABOVE;;;LONG S WITH DOT ABOVE;LONG S WITH DIAGONAL STROKE"),
    (0x1e9d, "LONG S WITH HIGH STROKE;;DELTA"), (0x1efb, "MIDDLE-WELSH LL;;MIDDLE-WELSH V")]⟩,
  ⟨"SUPERSCRIPT ", [(0xb2, "TWO;THREE;;;;;;ONE")]⟩,
  ⟨"VULGAR ", [(0xbc, "FRACTION ONE QUARTER;FRACTION ONE HALF;FRACTION THREE QUARTERS")]⟩,
  ⟨"LATIN CAPITAL LETTER A WITH ", [
    (0xc0, "GRAVE;ACUTE;CIRCUMFLEX;TILDE;DIAERESIS;RING ABOVE"), (0x100, "MACRON;;BREVE;;OGONEK"),
    (0x1cd, "CARON"), (0x1de, "DIAERESIS AND MACRON;;DOT ABOVE AND MACRON"),
    (0x1fa, "RING ABOVE AND ACUTE;;;;;;DOUBLE GRAVE;;INVERTED BREVE"), (0x226, "DOT ABOVE"),
    (0x23a, "STROKE"), (0x1e00, "RING BELOW"), (0x1ea0, "DOT BELOW;;HOOK ABOVE"),
    (0x1eae, "BREVE AND ACUTE;;BREVE AND GRAVE;;BREVE AND HOOK ABOVE;;BREVE AND TILDE"),
    (0x1eb6, "BREVE AND DOT BELOW")]⟩,
  ⟨"LATIN CAPITAL LETTER C WITH ", [
    (0xc7, "CEDILLA"), (0x106, "ACUTE;;CIRCUMFLEX;;DOT ABOVE;;CARON"), (0x187, "HOOK"),
    (0x23b, "STROKE"), (0x1e08, "CEDILLA AND ACUTE")]⟩,
  ⟨"LATIN CAPITAL LETTER E WITH ", [
    (0xc8, "GRAVE;ACUTE;CIRCUMFLEX;DIAERESIS"), (0x112, "MACRON;;BREVE;;DOT ABOVE;;OGONEK"),
    (0x11a, "CARON"), (0x204, "DOUBLE GRAVE;;INVERTED BREVE"), (0x228, "CEDILLA"),
    (0x246, "STROKE"), (0x1e14, "MACRON AND GRAVE;;MACRON AND ACUTE;;;;TILDE BELOW"),
    (0x1e1c, "CEDILLA AND BREVE"), (0x1eb8, "DOT BELOW;;HOOK ABOVE;;TILDE")]⟩,
  ⟨"LATIN CAPITAL LETTER I WITH ", [
    (0xcc, "GRAVE;ACUTE;CIRCUMFLEX;DIAERESIS"), (0x128, "TILDE;;MACRON;;BREVE;;OGONEK"),
    (0x130, "DOT ABOVE"), (0x197, "STROKE"), (0x1cf, "CARON"), (0x208, "DOUBLE GRAVE"),
    (0x20a, "INVERTED BREVE"), (0x1e2c, "TILDE BELOW;;DIAERESIS AND ACUTE"),
    (0x1ec8, "HOOK ABOVE;;DOT BELOW")]⟩,
  ⟨"LATIN CAPITAL LETTER N WITH ", [
    (0xd1, "TILDE"), (0x143, "ACUTE;;CEDILLA;;CARON"), (0x19d, "LEFT HOOK"),
    (0x1cb, "SMALL LETTER J"), (0x1f8, "GRAVE"), (0x220, "LONG RIGHT LEG"), (0x1e44, "DOT ABOVE"),
    (0x1e46, "DOT BELOW;;LINE BELOW;;CIRCUMFLEX BELOW")]⟩,
  ⟨"LATIN CAPITAL LETTER O WITH ", [
    (0xd2, "GRAVE;ACUTE;CIRCUMFLEX;TILDE;DIAERESIS;;STROKE"), (0x14c, "MACRON;;BREVE"),
    (0x150, "DOUBLE ACUTE"), (0x19f, "MIDDLE TILDE;HORN"), (0x1d1, "CARON"), (0x1ea, "OGONEK"),
    (0x1ec, "OGONEK AND MACRON"), (0x1fe, "STROKE AND ACUTE"), (0x20c, "DOUBLE GRAVE"),
    (0x20e, "INVERTED BREVE"), (0x22a, "DIAERESIS AND MACRON;;TILDE AND MACRON;;DOT ABOVE"),
    (0x230, "DOT ABOVE AND MACRON"), (0x1e4c, "TILDE AND ACUTE;;TILDE AND DIAERESIS"),
    (0x1e50, "MACRON AND GRAVE;;MACRON AND ACUTE"), (0x1ecc, "DOT BELOW;;HOOK ABOVE"),
    (0x1eda, "HORN AND ACUTE;;HORN AND GRAVE;;HORN AND HOOK ABOVE;;HORN AND TILDE"),
    (0x1ee2, "HORN AND DOT BELOW")]⟩,
  ⟨"LATIN CAPITAL LETTER U WITH ", [
    (0xd9, "GRAVE;ACUTE;CIRCUMFLEX;DIAERESIS"), (0x168, "TILDE;;MACRON;;BREVE;;RING ABOVE"),
    (0x170, "DOUBLE ACUTE;;OGONEK"), (0x1af, "HORN"), (0x1d3, "CARON"), (0x214, "DOUBLE GRAVE"),
    (0x216, "INVERTED BREVE"), (0x1e74, "TILDE BELOW;;CIRCUMFLEX BELOW;;TILDE AND ACUTE"),
    (0x1e7a, "MACRON AND DIAERESIS"), (0x1ee4, "DOT BELOW;;HOOK ABOVE;;HORN AND ACUTE"),
    (0x1eea, "HORN AND GRAVE;;HORN AND HOOK ABOVE;;HORN AND TILDE;;HORN AND DOT BELOW")]⟩,
  ⟨"LATIN CAPITAL LETTER Y WITH ", [
    (0xdd, "ACUTE"), (0x176, "CIRCUMFLEX;;DIAERESIS"), (0x1b3, "HOOK"), (0x232, "MACRON"),
    (0x24e, "STROKE"), (0x1e8e, "DOT ABOVE"), (0x1ef2, "GRAVE;;DOT BELOW;;HOOK ABOVE;;TILDE"),
    (0x1efe, "LOOP")]⟩,
  ⟨"LATIN SMALL LETTER A WITH ", [
    (0xe0, "GRAVE;ACUTE;CIRCUMFLEX;TILDE;DIAERESIS;RING ABOVE"), (0x101, "MACRON;;BREVE;;OGONEK"),
    (0x1ce, "CARON"), (0x1df, "DIAERESIS AND MACRON;;DOT ABOVE AND MACRON"),
    (0x1fb, "RING ABOVE AND ACUTE;;;;;;DOUBLE GRAVE;;INVERTED BREVE"), (0x227, "DOT ABOVE"),
    (0x1d8f, "RETROFLEX HOOK"), (0x1e01, "RING BELOW"), (0x1e9a, "RIGHT HALF RING"),
    (0x1ea1, "DOT BELOW;;HOOK ABOVE"), (0x1eaf, "BREVE AND ACUTE;;BREVE AND GRAVE"),
    (0x1eb3, "BREVE AND HOOK ABOVE;;BREVE AND TILDE;;BREVE AND DOT BELOW")]⟩,
  ⟨"LATIN SMALL LETTER C WITH ", [
    (0xe7, "CEDILLA"), (0x107, "ACUTE;;CIRCUMFLEX;;DOT ABOVE;;CARON"), (0x188, "HOOK"),
    (0x23c, "STROKE"), (0x255, "CURL"), (0x1e09, "CEDILLA AND ACUTE")]⟩,
  ⟨"LATIN SMALL LETTER E WITH ", [
    (0xe8, "GRAVE;ACUTE;CIRCUMFLEX;DIAERESIS"), (0x113, "MACRON;;BREVE;;DOT ABOVE;;OGONEK"),
    (0x11b, "CARON"), (0x205, "DOUBLE GRAVE;;INVERTED BREVE"), (0x229, "CEDILLA"),
    (0x247, "STROKE"), (0x1d92, "RETROFLEX HOOK"), (0x1e15, "MACRON AND GRAVE;;MACRON AND ACUTE"),
    (0x1e1b, "TILDE BELOW;;CEDILLA AND BREVE"), (0x1eb9, "DOT BELOW;;HOOK ABOVE;;TILDE")]⟩,
  ⟨"LATIN SMALL LETTER I WITH ", [
    (0xec, "GRAVE;ACUTE;CIRCUMFLEX;DIAERESIS"), (0x129, "TILDE;;MACRON;;BREVE;;OGONEK"),
    (0x1d0, "CARON"), (0x209, "DOUBLE GRAVE;;INVERTED BREVE"), (0x268, "STROKE"),
    (0x1d96, "RETROFLEX HOOK"), (0x1e2d, "TILDE BELOW;;DIAERESIS AND ACUTE"),
    (0x1ec9, "HOOK ABOVE;;DOT BELOW")]⟩,
  ⟨"LATIN SMALL LETTER N WITH ", [
    (0xf1, "TILDE"), (0x144, "ACUTE;;CEDILLA;;CARON"), (0x19e, "LONG RIGHT LEG"),
    (0x1f9, "GRAVE"), (0x235, "CURL"), (0x272, "LEFT HOOK;RETROFLEX HOOK"),
    (0x1d70, "MIDDLE TILDE"), (0x1d87, "PALATAL HOOK"), (0x1e45, "DOT ABOVE;;DOT BELOW"),
    (0x1e49, "LINE BELOW;;CIRCUMFLEX BELOW")]⟩,
  ⟨"LATIN SMALL LETTER O WITH ", [
    (0xf2, "GRAVE;ACUTE;CIRCUMFLEX;TILDE;DIAERESIS;;STROKE"), (0x14d, "MACRON;;BREVE"),
    (0x151, "DOUBLE ACUTE"), (0x1a1, "HORN"), (0x1d2, "CARON"), (0x1eb, "OGONEK"),
    (0x1ed, "OGONEK AND MACRON"), (0x1ff, "STROKE AND ACUTE"), (0x20d, "DOUBLE GRAVE"),
    (0x20f, "INVERTED BREVE"), (0x22b, "DIAERESIS AND MACRON;;TILDE AND MACRON;;DOT ABOVE"),
    (0x231, "DOT ABOVE AND MACRON"), (0x1e4d, "TILDE AND ACUTE;;TILDE AND DIAERESIS"),
    (0x1e51, "MACRON AND GRAVE;;MACRON AND ACUTE"), (0x1ecd, "DOT BELOW;;HOOK ABOVE"),
    (0x1edb, "HORN AND ACUTE;;HORN AND GRAVE;;HORN AND HOOK ABOVE;;HORN AND TILDE"),
    (0x1ee3, "HORN AND DOT BELOW")]⟩,
  ⟨"LATIN SMALL LETTER U WITH ", [
    (0xf9, "GRAVE;ACUTE;CIRCUMFLEX;DIAERESIS"), (0x169, "TILDE;;MACRON;;BREVE;;RING ABOVE"),
    (0x171, "DOUBLE ACUTE;;OGONEK"), (0x1b0, "HORN"), (0x1d4, "CARON"), (0x215, "DOUBLE GRAVE"),
    (0x217, "INVERTED BREVE"), (0x1d99, "RETROFLEX HOOK"), (0x1e75, "TILDE BELOW"),
    (0x1e77, "CIRCUMFLEX BELOW;;TILDE AND ACUTE;;MACRON AND DIAERESIS"), (0x1ee5, "DOT BELOW"),
    (0x1ee7, "HOOK ABOVE;;HORN AND ACUTE;;HORN AND GRAVE;;HORN AND HOOK ABOVE;;HORN AND TILDE"),
    (0x1ef1, "HORN AND DOT BELOW")]⟩,
  ⟨"LATIN SMALL LETTER Y WITH ", [
    (0xfd, "ACUTE;;DIAERESIS"), (0x177, "CIRCUMFLEX"), (0x1b4, "HOOK"), (0x233, "MACRON"),
    (0x24f, "STROKE"), (0x1e8f, "DOT ABOVE"), (0x1e99, "RING ABOVE"), (0x1ef3, "GRAVE"),
    (0x1ef5, "DOT BELOW;;HOOK ABOVE;;TILDE;;;;;;LOOP")]⟩,
  ⟨"LATIN CAPITAL LETTER D WITH ", [
    (0x10e, "CARON;;STROKE"), (0x18a, "HOOK;TOPBAR"), (0x1c5, "SMALL LETTER Z WITH CARON"),
    (0x1f2, "SMALL LETTER Z"), (0x1e0a, "DOT ABOVE;;DOT BELOW;;LINE BELOW;;CEDILLA"),
    (0x1e12, "CIRCUMFLEX BELOW")]⟩,
  ⟨"LATIN SMALL LETTER D WITH ", [
    (0x10f, "CARON;;STROKE"), (0x18c, "TOPBAR"), (0x221, "CURL"), (0x256, "TAIL;HOOK"),
    (0x1d6d, "MIDDLE TILDE"), (0x1d81, "PALATAL HOOK"), (0x1d91, "HOOK AND TAIL"),
    (0x1e0b, "DOT ABOVE;;DOT BELOW;;LINE BELOW;;CEDILLA;;CIRCUMFLEX BELOW")]⟩,
  ⟨"LATIN CAPITAL LETTER G WITH ", [
    (0x11c, "CIRCUMFLEX;;BREVE;;DOT ABOVE;;CEDILLA"), (0x193, "HOOK"), (0x1e4, "STROKE;;CARON"),
    (0x1f4, "ACUTE"), (0x1e20, "MACRON")]⟩,
  ⟨"LATIN SMALL LETTER G WITH ", [
    (0x11d, "CIRCUMFLEX;;BREVE;;DOT ABOVE;;CEDILLA"), (0x1e5, "STROKE;;CARON"), (0x1f5, "ACUTE"),
    (0x260, "HOOK"), (0x1d83, "PALATAL HOOK"), (0x1e21, "MACRON")]⟩,
  ⟨"LATIN CAPITAL LETTER H WITH ", [
    (0x124, "CIRCUMFLEX;;STROKE"), (0x21e, "CARON"), (0x1e22, "DOT ABOVE;;DOT BELOW;;DIAERESIS"),
    (0x1e28, "CEDILLA;;BREVE BELOW")]⟩,
  ⟨"LATIN SMALL LETTER H WITH ", [
    (0x125, "CIRCUMFLEX;;STROKE"), (0x21f, "CARON"), (0x266, "HOOK"), (0x1e23, "DOT ABOVE"),
    (0x1e25, "DOT BELOW;;DIAERESIS;;CEDILLA;;BREVE BELOW"), (0x1e96, "LINE BELOW")]⟩,
  ⟨"LATIN CAPITAL ", [(0x132, "LIGATURE IJ"), (0x152, "LIGATURE OE")]⟩,
  ⟨"LATIN SMALL ", [
    (0x133, "LIGATURE IJ"), (0x153, "LIGATURE OE"), (0x1d7b, "CAPITAL LETTER I WITH STROKE"),
    (0x1d7e, "CAPITAL LETTER U WITH STROKE")]⟩,
  ⟨"LATIN CAPITAL LETTER L WITH ", [
    (0x139, "ACUTE;;CEDILLA;;CARON;;MIDDLE DOT;;STROKE"), (0x1c8, "SMALL LETTER J"),
    (0x23d, "BAR"), (0x1e36, "DOT BELOW;;DOT BELOW AND MACRON;;LINE BELOW;;CIRCUMFLEX BELOW")]⟩,
  ⟨"LATIN SMALL LETTER L WITH ", [
    (0x13a, "ACUTE;;CEDILLA;;CARON;;MIDDLE DOT;;STROKE"), (0x19a, "BAR"), (0x234, "CURL"),
    (0x26b, "MIDDLE TILDE;BELT;RETROFLEX HOOK"), (0x1d85, "PALATAL HOOK"), (0x1e37, "DOT BELOW"),
    (0x1e39, "DOT BELOW AND MACRON;;LINE BELOW;;CIRCUMFLEX BELOW")]⟩,
  ⟨"LATIN SMALL LETTER N ", [(0x149, "PRECEDED BY APOSTROPHE")]⟩,
  ⟨"LATIN CAPITAL LETTER R WITH ", [
    (0x154, "ACUTE;;CEDILLA;;CARON"), (0x210, "DOUBLE GRAVE;;INVERTED BREVE"), (0x24c, "STROKE"),
    (0x1e58, "DOT ABOVE;;DOT BELOW;;DOT BELOW AND MACRON;;LINE BELOW")]⟩,
  ⟨"LATIN SMALL LETTER R WITH ", [
    (0x155, "ACUTE;;CEDILLA;;CARON"), (0x211, "DOUBLE GRAVE;;INVERTED BREVE"), (0x24d, "STROKE"),
    (0x27c, "LONG LEG;TAIL;FISHHOOK"), (0x1d72, "MIDDLE TILDE;FISHHOOK AND MIDDLE TILDE"),
    (0x1d89, "PALATAL HOOK"), (0x1e59, "DOT ABOVE;;DOT BELOW;;DOT BELOW AND MACRON;;LINE BELOW")]⟩,
  ⟨"LATIN CAPITAL LETTER S WITH ", [
    (0x15a, "ACUTE;;CIRCUMFLEX;;CEDILLA;;CARON"), (0x218, "COMMA BELOW"), (0x1e60, "DOT ABOVE"),
    (0x1e62, "DOT BELOW;;ACUTE AND DOT ABOVE;;CARON AND DOT ABOVE;;DOT BELOW AND DOT ABOVE")]⟩,
  ⟨"LATIN SMALL LETTER S WITH ", [
    (0x15b, "ACUTE;;CIRCUMFLEX;;CEDILLA;;CARON"), (0x219, "COMMA BELOW"), (0x23f, "SWASH TAIL"),
    (0x282, "HOOK"), (0x1d74, "MIDDLE TILDE"), (0x1d8a, "PALATAL HOOK"), (0x1e61, "DOT ABOVE"),
    (0x1e63, "DOT BELOW;;ACUTE AND DOT ABOVE;;CARON AND DOT ABOVE;;DOT BELOW AND DOT ABOVE")]⟩,
  ⟨"LATIN CAPITAL LETTER T WITH ", [
    (0x162, "CEDILLA;;CARON;;STROKE"), (0x1ac, "HOOK;;RETROFLEX HOOK"), (0x21a, "COMMA BELOW"),
    (0x23e, "DIAGONAL STROKE"), (0x1e6a, "DOT ABOVE;;DOT BELOW;;LINE BELOW;;CIRCUMFLEX BELOW")]⟩,
  ⟨"LATIN SMALL LETTER T WITH ", [
    (0x163, "CEDILLA;;CARON;;STROKE"), (0x1ab, "PALATAL HOOK;;HOOK"), (0x21b, "COMMA BELOW"),
    (0x236, "CURL"), (0x288, "RETROFLEX HOOK"), (0x1d75, "MIDDLE TILDE"), (0x1e6b, "DOT ABOVE"),
    (0x1e6d, "DOT BELOW;;LINE BELOW;;CIRCUMFLEX BELOW"), (0x1e97, "DIAERESIS")]⟩,
  ⟨"LATIN CAPITAL LETTER Z WITH ", [
    (0x179, "ACUTE;;DOT ABOVE;;CARON"), (0x1b5, "STROKE"), (0x224, "HOOK"),
    (0x1e90, "CIRCUMFLEX;;DOT BELOW;;LINE BELOW")]⟩,
  ⟨"LATIN SMALL LETTER Z WITH ", [
    (0x17a, "ACUTE;;DOT ABOVE;;CARON"), (0x1b6, "STROKE"), (0x225, "HOOK"), (0x240, "SWASH TAIL"),
    (0x290, "RETROFLEX HOOK;CURL"), (0x1d76, "MIDDLE TILDE"), (0x1d8e, "PALATAL HOOK"),
    (0x1e91, "CIRCUMFLEX;;DOT BELOW;;LINE BELOW")]⟩,
  ⟨"LATIN SMALL LETTER B WITH ", [
    (0x180, "STROKE;;;TOPBAR"), (0x253, "HOOK"), (0x1d6c, "MIDDLE TILDE"),
    (0x1d80, "PALATAL HOOK"), (0x1e03, "DOT ABOVE;;DOT BELOW;;LINE BELOW")]⟩,
  ⟨"LATIN SMALL LETTER TURNED ", [
    (0x18d, "DELTA"), (0x1dd, "E"), (0x250, "A;;ALPHA"), (0x265, "H"), (0x26f, "M"),
    (0x270, "M WITH LONG LEG"), (0x279, "R;R WITH LONG LEG;R WITH HOOK"), (0x287, "T;;;;;V;W;Y"),
    (0x29e, "K"), (0x2ae, "H WITH FISHHOOK;H WITH FISHHOOK AND TAIL"), (0x1d02, "AE;;;;;;OPEN E"),
    (0x1d09, "I"), (0x1d14, "OE"), (0x1d77, "G")]⟩,
  ⟨"LATIN LETTER ", [
    (0x1a6, "YR;;;;REVERSED ESH LOOP"), (0x1bb, "TWO WITH STROKE"),
    (0x1be, "INVERTED GLOTTAL STOP WITH STROKE;WYNN;DENTAL CLICK;LATERAL CLICK;ALVEOLAR CLICK"),
    (0x1c3, "RETROFLEX CLICK"), (0x294, "GLOTTAL STOP;PHARYNGEAL VOICED FRICATIVE"),
    (0x296, "INVERTED GLOTTAL STOP;STRETCHED C;BILABIAL CLICK"),
    (0x2a1, "GLOTTAL STOP WITH STROKE;REVERSED GLOTTAL STOP WITH STROKE"),
    (0x2ac, "BILABIAL PERCUSSIVE;BIDENTAL PERCUSSIVE"), (0x1d24, "VOICED LARYNGEAL SPIRANT;AIN")]⟩,
  ⟨"LATIN CAPITAL LETTER U WITH DIAERESIS ", [
    (0x1d5, "AND MACRON;;AND ACUTE;;AND CARON;;AND GRAVE"), (0x1e72, "BELOW")]⟩,
  ⟨"LATIN SMALL LETTER U WITH DIAERESIS ", [
    (0x1d6, "AND MACRON;;AND ACUTE;;AND CARON;;AND GRAVE"), (0x1e73, "BELOW")]⟩,
  ⟨"LATIN CAPITAL LETTER U ", [(0x244, "BAR")]⟩,
  ⟨"LATIN SMALL LETTER REVERSED ", [
    (0x258, "E;;;;OPEN E;OPEN E WITH HOOK"), (0x27f, "R WITH FISHHOOK"),
    (0x1d94, "OPEN E WITH RETROFLEX HOOK")]⟩,
  ⟨"LATIN LETTER SMALL CAPITAL ", [
    (0x262, "G;;;;;;;;I"), (0x274, "N;;OE"), (0x280, "R;INVERTED R"), (0x28f, "Y"), (0x299, "B"),
    (0x29b, "G WITH HOOK;H;;;L"), (0x1d00, "A;AE;;BARRED B;C;D;ETH;E;;;J;K;L WITH STROKE;M"),
    (0x1d0e, "REVERSED N;O;OPEN O;;;;;OU;;;P;REVERSED R;TURNED R;T;U;;;;V;W;Z;EZH")]⟩,
  ⟨"LATIN SMALL LETTER U ", [(0x289, "BAR")]⟩,
  ⟨"MODIFIER LETTER SMALL ", [
    (0x2b0, "H;H WITH HOOK;J;R;;;;W;Y"), (0x2e0, "GAMMA;L;S;X;REVERSED GLOTTAL STOP"),
    (0x1d43, "A;;ALPHA;;B;D;E;SCHWA;OPEN E;;G;;K;M;ENG;O;OPEN O;TOP HALF O;BOTTOM HALF O;P;T;U"),
    (0x1d59, "SIDEWAYS U;;V;AIN;BETA;GREEK GAMMA;DELTA;GREEK PHI;CHI"), (0x1d9c, "C;C WITH CURL"),
    (0x1d9e, "ETH;REVERSED OPEN E;F;DOTLESS J WITH STROKE;SCRIPT G;;I WITH STROKE;IOTA"),
    (0x1da8, "J WITH CROSSED-TAIL;L WITH RETROFLEX HOOK;L WITH PALATAL HOOK;;M WITH HOOK"),
    (0x1dae, "N WITH LEFT HOOK;N WITH RETROFLEX HOOK;;BARRED O;PHI;S WITH HOOK;ESH"),
    (0x1db5, "T WITH PALATAL HOOK;U BAR;UPSILON;;V WITH HOOK;;Z;Z WITH RETROFLEX HOOK"),
    (0x1dbd, "Z WITH CURL;EZH;THETA")]⟩,
  ⟨"MODIFIER LETTER SMALL TURNED ", [
    (0x2b4, "R;R WITH HOOK"), (0x1d44, "A;;AE;;;;;;OPEN E;;I"), (0x1d5a, "M"), (0x1d9b, "ALPHA"),
    (0x1da3, "H"), (0x1dad, "M WITH LONG LEG"), (0x1dba, "V")]⟩,
  ⟨"MODIFIER LETTER SMALL CAPITAL ", [
    (0x2b6, "INVERTED R"), (0x1da6, "I;I WITH STROKE;;;;L;;;;;N;;;;;;;;U")]⟩,
  ⟨"MODIFIER LETTER ", [
    (0x2b9, "PRIME;DOUBLE PRIME;TURNED COMMA;APOSTROPHE;REVERSED COMMA;RIGHT HALF RING"),
    (0x2bf, "LEFT HALF RING;GLOTTAL STOP;REVERSED GLOTTAL STOP;LEFT ARROWHEAD;RIGHT ARROWHEAD"),
    (0x2c4, "UP ARROWHEAD;DOWN ARROWHEAD;CIRCUMFLEX ACCENT;;VERTICAL LINE;MACRON;ACUTE ACCENT"),
    (0x2cb, "GRAVE ACCENT;;;;;TRIANGULAR COLON;HALF TRIANGULAR COLON;CENTRED RIGHT HALF RING"),
    (0x2d3, "CENTRED LEFT HALF RING;UP TACK;DOWN TACK;PLUS SIGN;MINUS SIGN;;;;;;;RHOTIC HOOK"),
    (0x2df, "CROSS ACCENT;;;;;;EXTRA-HIGH TONE BAR;HIGH TONE BAR;MID TONE BAR"),
    (0x2e9, "EXTRA-LOW TONE BAR;YIN DEPARTING TONE MARK;YANG DEPARTING TONE MARK;VOICING"),
    (0x2ed, "UNASPIRATED;DOUBLE APOSTROPHE;;;;;;MIDDLE GRAVE ACCENT;MIDDLE DOUBLE GRAVE ACCENT"),
    (0x2f6, "MIDDLE DOUBLE ACUTE ACCENT;;RAISED COLON;BEGIN HIGH TONE;END HIGH TONE"),
    (0x2fb, "BEGIN LOW TONE;END LOW TONE;SHELF;OPEN SHELF"), (0x1d78, "CYRILLIC EN")]⟩,
  ⟨"MODIFIER LETTER LOW ", [
    (0x2cc, "VERTICAL LINE;MACRON;GRAVE ACCENT;ACUTE ACCENT"), (0x2e8, "TONE BAR"),
    (0x2ef, "DOWN ARROWHEAD;UP ARROWHEAD;LEFT ARROWHEAD;RIGHT ARROWHEAD;RING;;;;TILDE"),
    (0x2ff, "LEFT ARROW")]⟩,
  ⟨"COMBINING ", [
    (0x300, "GRAVE ACCENT;ACUTE ACCENT;CIRCUMFLEX ACCENT;TILDE;MACRON;OVERLINE;BREVE;DOT ABOVE"),
    (0x308, "DIAERESIS;HOOK ABOVE;RING ABOVE;;CARON;VERTICAL LINE ABOVE;;;CANDRABINDU"),
    (0x312, "TURNED COMMA ABOVE;COMMA ABOVE;REVERSED COMMA ABOVE;COMMA ABOVE RIGHT"),
    (0x316, "GRAVE ACCENT BELOW;ACUTE ACCENT BELOW;;;;HORN;;UP TACK BELOW;DOWN TACK BELOW"),
    (0x31f, "PLUS SIGN BELOW;MINUS SIGN BELOW;PALATALIZED HOOK BELOW;RETROFLEX HOOK BELOW"),
    (0x323, "DOT BELOW;DIAERESIS BELOW;RING BELOW;COMMA BELOW;CEDILLA;OGONEK"),
    (0x329, "VERTICAL LINE BELOW;BRIDGE BELOW;;CARON BELOW;CIRCUMFLEX ACCENT BELOW;BREVE BELOW"),
    (0x330, "TILDE BELOW;MACRON BELOW;LOW LINE;;TILDE OVERLAY;SHORT STROKE OVERLAY"),
    (0x336, "LONG STROKE OVERLAY;SHORT SOLIDUS OVERLAY;LONG SOLIDUS OVERLAY;;;SQUARE BELOW"),
    (0x33c, "SEAGULL BELOW;X ABOVE;VERTICAL TILDE;;GRAVE TONE MARK;ACUTE TONE MARK"),
    (0x342, "GREEK PERISPOMENI;GREEK KORONIS;GREEK DIALYTIKA TONOS;GREEK YPOGEGRAMMENI"),
    (0x346, "BRIDGE ABOVE;EQUALS SIGN BELOW;;;NOT TILDE ABOVE;HOMOTHETIC ABOVE"),
    (0x34c, "ALMOST EQUAL TO ABOVE;;UPWARDS ARROW BELOW;GRAPHEME JOINER;;;FERMATA;X BELOW"),
    (0x358, "DOT ABOVE RIGHT;ASTERISK BELOW;;ZIGZAG ABOVE"), (0x1dc0, "DOTTED GRAVE ACCENT"),
    (0x1dc1, "DOTTED ACUTE ACCENT;SNAKE BELOW;SUSPENSION MARK;MACRON-ACUTE;GRAVE-MACRON"),
    (0x1dc6, "MACRON-GRAVE;ACUTE-MACRON;GRAVE-ACUTE-GRAVE;ACUTE-GRAVE-ACUTE;;BREVE-MACRON"),
    (0x1dcc, "MACRON-BREVE;;OGONEK ABOVE;ZIGZAG BELOW;IS BELOW;UR ABOVE;US ABOVE"),
    (0x1df5, "UP TACK ABOVE;KAVYKA ABOVE RIGHT;KAVYKA ABOVE LEFT;DOT ABOVE LEFT"),
    (0x1df9, "WIDE INVERTED BRIDGE BELOW;DOT BELOW LEFT;DELETION MARK;;ALMOST EQUAL TO BELOW")]⟩,
  ⟨"COMBINING DOUBLE ", [
    (0x30b, "ACUTE ACCENT;;;VERTICAL LINE ABOVE;GRAVE ACCENT"), (0x333, "LOW LINE"),
    (0x33f, "OVERLINE"), (0x348, "VERTICAL LINE BELOW"), (0x35a, "RING BELOW;;BREVE BELOW;BREVE"),
    (0x35e, "MACRON;MACRON BELOW;TILDE;INVERTED BREVE;RIGHTWARDS ARROW BELOW"),
    (0x1dcd, "CIRCUMFLEX ABOVE"), (0x1dfc, "INVERTED BREVE BELOW")]⟩,
  ⟨"COMBINING INVERTED ", [
    (0x311, "BREVE"), (0x32b, "DOUBLE ARCH BELOW;;;;BREVE BELOW"), (0x33a, "BRIDGE BELOW")]⟩,
  ⟨"COMBINING LEFT ", [
    (0x318, "TACK BELOW;;ANGLE ABOVE;;HALF RING BELOW"), (0x349, "ANGLE BELOW"),
    (0x34d, "RIGHT ARROW BELOW;;;;HALF RING ABOVE;;;ARROWHEAD BELOW"),
    (0x1dfe, "ARROWHEAD ABOVE")]⟩,
  ⟨"COMBINING RIGHT ", [
    (0x319, "TACK BELOW"), (0x339, "HALF RING BELOW"), (0x357, "HALF RING ABOVE")]⟩,
  ⟨"COMBINING RIGHT ARROWHEAD ", [
    (0x350, "ABOVE;;;;;BELOW;AND UP ARROWHEAD BELOW"), (0x1dff, "AND DOWN ARROWHEAD BELOW")]⟩,
  ⟨"COMBINING LATIN SMALL LETTER ", [
    (0x363, "A;E;I;O;U;C;D;H;M;R;T;V;X"), (0x1dca, "R BELOW"), (0x1dd3, "FLATTENED OPEN A ABOVE"),
    (0x1dd4, "AE;AO;AV;C CEDILLA;INSULAR D;ETH;G;;K;L;;;N;;;R ROTUNDA;S;LONG S;Z;ALPHA;B;BETA"),
    (0x1dea, "SCHWA;F;L WITH DOUBLE MIDDLE TILDE;O WITH LIGHT CENTRALIZATION STROKE;P;ESH"),
    (0x1df0, "U WITH LIGHT CENTRALIZATION STROKE;W;A WITH DIAERESIS;O WITH DIAERESIS"),
    (0x1df4, "U WITH DIAERESIS")]⟩,
  ⟨"GREEK CAPITAL LETTER ", [
    (0x370, "HETA;;ARCHAIC SAMPI;;;;PAMPHYLIAN DIGAMMA"), (0x37f, "YOT"), (0x391, "ALPHA;BETA"),
    (0x393, "GAMMA;DELTA;EPSILON;ZETA;ETA;THETA;IOTA;KAPPA;LAMDA;MU;NU;XI;OMICRON;PI;RHO;;SIGMA"),
    (0x3a4, "TAU;UPSILON;PHI;CHI;PSI;OMEGA"), (0x3f7, "SHO;;;SAN"), (0x1fec, "RHO WITH DASIA")]⟩,
  ⟨"GREEK SMALL LETTER ", [
    (0x371, "HETA;;ARCHAIC SAMPI;;;;PAMPHYLIAN DIGAMMA"), (0x3b1, "ALPHA;BETA;GAMMA;DELTA"),
    (0x3b5, "EPSILON;ZETA;ETA;THETA;IOTA;KAPPA;LAMDA;MU;NU;XI;OMICRON;PI;RHO;FINAL SIGMA;SIGMA"),
    (0x3c4, "TAU;UPSILON;PHI;CHI;PSI;OMEGA"), (0x3d9, "ARCHAIC KOPPA;;STIGMA;;DIGAMMA;;KOPPA"),
    (0x3e1, "SAMPI"), (0x3f8, "SHO;;;SAN"), (0x1fe4, "RHO WITH PSILI;RHO WITH DASIA")]⟩,
  ⟨"GREEK ", [
    (0x374, "NUMERAL SIGN;LOWER NUMERAL SIGN;;;;;YPOGEGRAMMENI;;;;QUESTION MARK;;;;;;TONOS"),
    (0x387, "ANO TELEIA"), (0x3d0, "BETA SYMBOL;THETA SYMBOL;UPSILON WITH HOOK SYMBOL"),
    (0x3d3, "UPSILON WITH ACUTE AND HOOK SYMBOL;UPSILON WITH DIAERESIS AND HOOK SYMBOL"),
    (0x3d5, "PHI SYMBOL;PI SYMBOL;KAI SYMBOL"), (0x3f0, "KAPPA SYMBOL;RHO SYMBOL"),
    (0x3f2, "LUNATE SIGMA SYMBOL;;;LUNATE EPSILON SYMBOL;REVERSED LUNATE EPSILON SYMBOL"),
    (0x3fc, "RHO WITH STROKE SYMBOL"), (0x1fbd, "KORONIS;PROSGEGRAMMENI;PSILI;PERISPOMENI"),
    (0x1fcd, "PSILI AND VARIA;PSILI AND OXIA;PSILI AND PERISPOMENI"), (0x1fdd, "DASIA AND VARIA"),
    (0x1fde, "DASIA AND OXIA;DASIA AND PERISPOMENI"), (0x1fef, "VARIA"), (0x1ffd, "OXIA;DASIA")]⟩,
  ⟨"GREEK SMALL ", [
    (0x37b, "REVERSED LUNATE SIGMA SYMBOL;DOTTED LUNATE SIGMA SYMBOL"),
    (0x37d, "REVERSED DOTTED LUNATE SIGMA SYMBOL")]⟩,
  ⟨"GREEK DIALYTIKA ", [
    (0x385, "TONOS"), (0x1fc1, "AND PERISPOMENI"), (0x1fed, "AND VARIA;AND OXIA")]⟩,
  ⟨"GREEK CAPITAL LETTER ALPHA WITH ", [
    (0x386, "TONOS"), (0x1f08, "PSILI;DASIA;PSILI AND VARIA;DASIA AND VARIA;PSILI AND OXIA"),
    (0x1f0d, "DASIA AND OXIA;PSILI AND PERISPOMENI;DASIA AND PERISPOMENI"),
    (0x1f88, "PSILI AND PROSGEGRAMMENI;DASIA AND PROSGEGRAMMENI"),
    (0x1f8a, "PSILI AND VARIA AND PROSGEGRAMMENI;DASIA AND VARIA AND PROSGEGRAMMENI"),
    (0x1f8c, "PSILI AND OXIA AND PROSGEGRAMMENI;DASIA AND OXIA AND PROSGEGRAMMENI"),
    (0x1f8e, "PSILI AND PERISPOMENI AND PROSGEGRAMMENI;DASIA AND PERISPOMENI AND PROSGEGRAMMENI"),
    (0x1fb8, "VRACHY;MACRON;VARIA;OXIA;PROSGEGRAMMENI")]⟩,
  ⟨"GREEK CAPITAL LETTER EPSILON ", [
    (0x388, "WITH TONOS"), (0x1f18, "WITH PSILI;WITH DASIA;WITH PSILI AND VARIA"),
    (0x1f1b, "WITH DASIA AND VARIA;WITH PSILI AND OXIA;WITH DASIA AND OXIA"),
    (0x1fc8, "WITH VARIA;WITH OXIA")]⟩,
  ⟨"GREEK CAPITAL LETTER ETA WITH ", [
    (0x389, "TONOS"), (0x1f28, "PSILI;DASIA;PSILI AND VARIA;DASIA AND VARIA;PSILI AND OXIA"),
    (0x1f2d, "DASIA AND OXIA;PSILI AND PERISPOMENI;DASIA AND PERISPOMENI"),
    (0x1f98, "PSILI AND PROSGEGRAMMENI;DASIA AND PROSGEGRAMMENI"),
    (0x1f9a, "PSILI AND VARIA AND PROSGEGRAMMENI;DASIA AND VARIA AND PROSGEGRAMMENI"),
    (0x1f9c, "PSILI AND OXIA AND PROSGEGRAMMENI;DASIA AND OXIA AND PROSGEGRAMMENI"),
    (0x1f9e, "PSILI AND PERISPOMENI AND PROSGEGRAMMENI;DASIA AND PERISPOMENI AND PROSGEGRAMMENI"),
    (0x1fca, "VARIA;OXIA;PROSGEGRAMMENI")]⟩,
  ⟨"GREEK CAPITAL LETTER IOTA WITH ", [
    (0x38a, "TONOS"), (0x3aa, "DIALYTIKA"), (0x1f38, "PSILI;DASIA;PSILI AND VARIA"),
    (0x1f3b, "DASIA AND VARIA;PSILI AND OXIA;DASIA AND OXIA;PSILI AND PERISPOMENI"),
    (0x1f3f, "DASIA AND PERISPOMENI"), (0x1fd8, "VRACHY;MACRON;VARIA;OXIA")]⟩,
  ⟨"GREEK CAPITAL LETTER OMICRON ", [
    (0x38c, "WITH TONOS"), (0x1f48, "WITH PSILI;WITH DASIA;WITH PSILI AND VARIA"),
    (0x1f4b, "WITH DASIA AND VARIA;WITH PSILI AND OXIA;WITH DASIA AND OXIA"),
    (0x1ff8, "WITH VARIA;WITH OXIA")]⟩,
  ⟨"GREEK CAPITAL LETTER UPSILON WITH ", [
    (0x38e, "TONOS"), (0x3ab, "DIALYTIKA"), (0x1f59, "DASIA;;DASIA AND VARIA;;DASIA AND OXIA"),
    (0x1f5f, "DASIA AND PERISPOMENI"), (0x1fe8, "VRACHY;MACRON;VARIA;OXIA")]⟩,
  ⟨"GREEK CAPITAL LETTER OMEGA WITH ", [
    (0x38f, "TONOS"), (0x1f68, "PSILI;DASIA;PSILI AND VARIA;DASIA AND VARIA;PSILI AND OXIA"),
    (0x1f6d, "DASIA AND OXIA;PSILI AND PERISPOMENI;DASIA AND PERISPOMENI"),
    (0x1fa8, "PSILI AND PROSGEGRAMMENI;DASIA AND PROSGEGRAMMENI"),
    (0x1faa, "PSILI AND VARIA AND PROSGEGRAMMENI;DASIA AND VARIA AND PROSGEGRAMMENI"),
    (0x1fac, "PSILI AND OXIA AND PROSGEGRAMMENI;DASIA AND OXIA AND PROSGEGRAMMENI"),
    (0x1fae, "PSILI AND PERISPOMENI AND PROSGEGRAMMENI;DASIA AND PERISPOMENI AND PROSGEGRAMMENI"),
    (0x1ffa, "VARIA;OXIA;PROSGEGRAMMENI")]⟩,
  ⟨"GREEK SMALL LETTER IOTA WITH ", [
    (0x390, "DIALYTIKA AND TONOS"), (0x3af, "TONOS"), (0x3ca, "DIALYTIKA"), (0x1f30, "PSILI"),
    (0x1f31, "DASIA;PSILI AND VARIA;DASIA AND VARIA;PSILI AND OXIA;DASIA AND OXIA"),
    (0x1f36, "PSILI AND PERISPOMENI;DASIA AND PERISPOMENI"), (0x1f76, "VARIA;OXIA"),
    (0x1fd0, "VRACHY;MACRON;DIALYTIKA AND VARIA;DIALYTIKA AND OXIA;;;PERISPOMENI"),
    (0x1fd7, "DIALYTIKA AND PERISPOMENI")]⟩,
  ⟨"GREEK SMALL LETTER ALPHA WITH ", [
    (0x3ac, "TONOS"), (0x1f00, "PSILI;DASIA;PSILI AND VARIA;DASIA AND VARIA;PSILI AND OXIA"),
    (0x1f05, "DASIA AND OXIA;PSILI AND PERISPOMENI;DASIA AND PERISPOMENI"), (0x1f70, "VARIA"),
    (0x1f71, "OXIA"), (0x1f80, "PSILI AND YPOGEGRAMMENI;DASIA AND YPOGEGRAMMENI"),
    (0x1f82, "PSILI AND VARIA AND YPOGEGRAMMENI;DASIA AND VARIA AND YPOGEGRAMMENI"),
    (0x1f84, "PSILI AND OXIA AND YPOGEGRAMMENI;DASIA AND OXIA AND YPOGEGRAMMENI"),
    (0x1f86, "PSILI AND PERISPOMENI AND YPOGEGRAMMENI;DASIA AND PERISPOMENI AND YPOGEGRAMMENI"),
    (0x1fb0, "VRACHY;MACRON;VARIA AND YPOGEGRAMMENI;YPOGEGRAMMENI;OXIA AND YPOGEGRAMMENI"),
    (0x1fb6, "PERISPOMENI;PERISPOMENI AND YPOGEGRAMMENI")]⟩,
  ⟨"GREEK SMALL LETTER EPSILON WITH ", [
    (0x3ad, "TONOS"), (0x1f10, "PSILI;DASIA;PSILI AND VARIA;DASIA AND VARIA;PSILI AND OXIA"),
    (0x1f15, "DASIA AND OXIA"), (0x1f72, "VARIA;OXIA")]⟩,
  ⟨"GREEK SMALL LETTER ETA WITH ", [
    (0x3ae, "TONOS"), (0x1f20, "PSILI;DASIA;PSILI AND VARIA;DASIA AND VARIA;PSILI AND OXIA"),
    (0x1f25, "DASIA AND OXIA;PSILI AND PERISPOMENI;DASIA AND PERISPOMENI"), (0x1f74, "VARIA"),
    (0x1f75, "OXIA"), (0x1f90, "PSILI AND YPOGEGRAMMENI;DASIA AND YPOGEGRAMMENI"),
    (0x1f92, "PSILI AND VARIA AND YPOGEGRAMMENI;DASIA AND VARIA AND YPOGEGRAMMENI"),
    (0x1f94, "PSILI AND OXIA AND YPOGEGRAMMENI;DASIA AND OXIA AND YPOGEGRAMMENI"),
    (0x1f96, "PSILI AND PERISPOMENI AND YPOGEGRAMMENI;DASIA AND PERISPOMENI AND YPOGEGRAMMENI"),
    (0x1fc2, "VARIA AND YPOGEGRAMMENI;YPOGEGRAMMENI;OXIA AND YPOGEGRAMMENI;;PERISPOMENI"),
    (0x1fc7, "PERISPOMENI AND YPOGEGRAMMENI")]⟩,
  ⟨"GREEK SMALL LETTER UPSILON WITH ", [
    (0x3b0, "DIALYTIKA AND TONOS"), (0x3cb, "DIALYTIKA;;TONOS"), (0x1f50, "PSILI;DASIA"),
    (0x1f52, "PSILI AND VARIA;DASIA AND VARIA;PSILI AND OXIA;DASIA AND OXIA"),
    (0x1f56, "PSILI AND PERISPOMENI;DASIA AND PERISPOMENI"), (0x1f7a, "VARIA;OXIA"),
    (0x1fe0, "VRACHY;MACRON;DIALYTIKA AND VARIA;DIALYTIKA AND OXIA;;;PERISPOMENI"),
    (0x1fe7, "DIALYTIKA AND PERISPOMENI")]⟩,
  ⟨"GREEK SMALL LETTER OMICRON WITH ", [
    (0x3cc, "TONOS"), (0x1f40, "PSILI;DASIA;PSILI AND VARIA;DASIA AND VARIA;PSILI AND OXIA"),
    (0x1f45, "DASIA AND OXIA"), (0x1f78, "VARIA;OXIA")]⟩,
  ⟨"GREEK SMALL LETTER OMEGA WITH ", [
    (0x3ce, "TONOS"), (0x1f60, "PSILI;DASIA;PSILI AND VARIA;DASIA AND VARIA;PSILI AND OXIA"),
    (0x1f65, "DASIA AND OXIA;PSILI AND PERISPOMENI;DASIA AND PERISPOMENI"), (0x1f7c, "VARIA"),
    (0x1f7d, "OXIA"), (0x1fa0, "PSILI AND YPOGEGRAMMENI;DASIA AND YPOGEGRAMMENI"),
    (0x1fa2, "PSILI AND VARIA AND YPOGEGRAMMENI;DASIA AND VARIA AND YPOGEGRAMMENI"),
    (0x1fa4, "PSILI AND OXIA AND YPOGEGRAMMENI;DASIA AND OXIA AND YPOGEGRAMMENI"),
    (0x1fa6, "PSILI AND PERISPOMENI AND YPOGEGRAMMENI;DASIA AND PERISPOMENI AND YPOGEGRAMMENI"),
    (0x1ff2, "VARIA AND YPOGEGRAMMENI;YPOGEGRAMMENI;OXIA AND YPOGEGRAMMENI;;PERISPOMENI"),
    (0x1ff7, "PERISPOMENI AND YPOGEGRAMMENI")]⟩,
  ⟨"GREEK CAPITAL ", [
    (0x3cf, "KAI SYMBOL"), (0x3f4, "THETA SYMBOL;;;;;LUNATE SIGMA SYMBOL"),
    (0x3fd, "REVERSED LUNATE SIGMA SYMBOL;DOTTED LUNATE SIGMA SYMBOL"),
    (0x3ff, "REVERSED DOTTED LUNATE SIGMA SYMBOL")]⟩,
  ⟨"GREEK LETTER ", [(0x3d8, "ARCHAIC KOPPA;;STIGMA;;DIGAMMA;;KOPPA;;SAMPI"), (0x3f3, "YOT")]⟩,
  ⟨"COPTIC CAPITAL LETTER ", [(0x3e2, "SHEI;;FEI;;KHEI;;HORI;;GANGIA;;SHIMA;;DEI")]⟩,
  ⟨"COPTIC SMALL LETTER ", [(0x3e3, "SHEI;;FEI;;KHEI;;HORI;;GANGIA;;SHIMA;;DEI")]⟩,
  ⟨"CYRILLIC CAPITAL LETTER ", [
    (0x400, "IE WITH GRAVE;IO;DJE;GJE;UKRAINIAN IE;DZE;BYELORUSSIAN-UKRAINIAN I;YI;JE;LJE;NJE"),
    (0x40b, "TSHE;KJE;I WITH GRAVE;SHORT U;DZHE;A;BE;VE;GHE;DE;IE;ZHE;ZE;I;SHORT I;KA;EL;EM;EN"),
    (0x41e, "O;PE;ER;ES;TE;U;EF;HA;TSE;CHE;SHA;SHCHA;HARD SIGN;YERU;SOFT SIGN;E;YU;YA"),
    (0x460, "OMEGA;;YAT;;IOTIFIED E;;LITTLE YUS;;IOTIFIED LITTLE YUS;;BIG YUS;;IOTIFIED BIG YUS"),
    (0x46e, "KSI;;PSI;;FITA;;IZHITSA;;IZHITSA WITH DOUBLE GRAVE ACCENT;;UK;;ROUND OMEGA"),
    (0x47c, "OMEGA WITH TITLO;;OT;;KOPPA"), (0x48a, "SHORT I WITH TAIL;;SEMISOFT SIGN"),
    (0x48e, "ER WITH TICK;;GHE WITH UPTURN;;GHE WITH STROKE;;GHE WITH MIDDLE HOOK"),
    (0x496, "ZHE WITH DESCENDER;;ZE WITH DESCENDER;;KA WITH DESCENDER;;KA WITH VERTICAL STROKE"),
    (0x49e, "KA WITH STROKE;;BASHKIR KA;;EN WITH DESCENDER;;;;PE WITH MIDDLE HOOK;;ABKHASIAN HA"),
    (0x4aa, "ES WITH DESCENDER;;TE WITH DESCENDER;;STRAIGHT U;;STRAIGHT U WITH STROKE"),
    (0x4b2, "HA WITH DESCENDER;;;;CHE WITH DESCENDER;;CHE WITH VERTICAL STROKE;;SHHA"),
    (0x4bc, "ABKHASIAN CHE;;ABKHASIAN CHE WITH DESCENDER;;;ZHE WITH BREVE;;KA WITH HOOK"),
    (0x4c5, "EL WITH TAIL;;EN WITH HOOK;;EN WITH TAIL;;KHAKASSIAN CHE;;EM WITH TAIL"),
    (0x4d0, "A WITH BREVE;;A WITH DIAERESIS;;;;IE WITH BREVE;;SCHWA;;SCHWA WITH DIAERESIS"),
    (0x4dc, "ZHE WITH DIAERESIS;;ZE WITH DIAERESIS;;ABKHASIAN DZE;;I WITH MACRON"),
    (0x4e4, "I WITH DIAERESIS;;O WITH DIAERESIS;;BARRED O;;BARRED O WITH DIAERESIS"),
    (0x4ec, "E WITH DIAERESIS;;U WITH MACRON;;U WITH DIAERESIS;;U WITH DOUBLE ACUTE"),
    (0x4f4, "CHE WITH DIAERESIS;;GHE WITH DESCENDER;;YERU WITH DIAERESIS"),
    (0x4fa, "GHE WITH STROKE AND HOOK;;HA WITH HOOK;;HA WITH STROKE;;KOMI DE;;KOMI DJE"),
    (0x504, "KOMI ZJE;;KOMI DZJE;;KOMI LJE;;KOMI NJE;;KOMI SJE;;KOMI TJE;;REVERSED ZE"),
    (0x512, "EL WITH HOOK;;LHA;;RHA;;YAE;;QA;;WE;;ALEUT KA;;EL WITH MIDDLE HOOK"),
    (0x522, "EN WITH MIDDLE HOOK;;PE WITH DESCENDER;;SHHA WITH DESCENDER;;EN WITH LEFT HOOK"),
    (0x52a, "DZZHE;;DCHE;;EL WITH DESCENDER")]⟩,
  ⟨"CYRILLIC SMALL LETTER ", [
    (0x430, "A;BE;VE;GHE;DE;IE;ZHE;ZE;I;SHORT I;KA;EL;EM;EN;O;PE;ER;ES;TE;U;EF;HA;TSE;CHE;SHA"),
    (0x449, "SHCHA;HARD SIGN;YERU;SOFT SIGN;E;YU;YA;IE WITH GRAVE;IO;DJE;GJE;UKRAINIAN IE;DZE"),
    (0x456, "BYELORUSSIAN-UKRAINIAN I;YI;JE;LJE;NJE;TSHE;KJE;I WITH GRAVE;SHORT U;DZHE;;OMEGA"),
    (0x463, "YAT;;IOTIFIED E;;LITTLE YUS;;IOTIFIED LITTLE YUS;;BIG YUS;;IOTIFIED BIG YUS;;KSI"),
    (0x471, "PSI;;FITA;;IZHITSA;;IZHITSA WITH DOUBLE GRAVE ACCENT;;UK;;ROUND OMEGA"),
    (0x47d, "OMEGA WITH TITLO;;OT;;KOPPA"), (0x48b, "SHORT I WITH TAIL;;SEMISOFT SIGN"),
    (0x48f, "ER WITH TICK;;GHE WITH UPTURN;;GHE WITH STROKE;;GHE WITH MIDDLE HOOK"),
    (0x497, "ZHE WITH DESCENDER;;ZE WITH DESCENDER;;KA WITH DESCENDER;;KA WITH VERTICAL STROKE"),
    (0x49f, "KA WITH STROKE;;BASHKIR KA;;EN WITH DESCENDER;;;;PE WITH MIDDLE HOOK;;ABKHASIAN HA"),
    (0x4ab, "ES WITH DESCENDER;;TE WITH DESCENDER;;STRAIGHT U;;STRAIGHT U WITH STROKE"),
    (0x4b3, "HA WITH DESCENDER;;;;CHE WITH DESCENDER;;CHE WITH VERTICAL STROKE;;SHHA"),
    (0x4bd, "ABKHASIAN CHE;;ABKHASIAN CHE WITH DESCENDER;;;ZHE WITH BREVE;;KA WITH HOOK"),
    (0x4c6, "EL WITH TAIL;;EN WITH HOOK;;EN WITH TAIL;;KHAKASSIAN CHE;;EM WITH TAIL;PALOCHKA"),
    (0x4d1, "A WITH BREVE;;A WITH DIAERESIS;;;;IE WITH BREVE;;SCHWA;;SCHWA WITH DIAERESIS"),
    (0x4dd, "ZHE WITH DIAERESIS;;ZE WITH DIAERESIS;;ABKHASIAN DZE;;I WITH MACRON"),
    (0x4e5, "I WITH DIAERESIS;;O WITH DIAERESIS;;BARRED O;;BARRED O WITH DIAERESIS"),
    (0x4ed, "E WITH DIAERESIS;;U WITH MACRON;;U WITH DIAERESIS;;U WITH DOUBLE ACUTE"),
    (0x4f5, "CHE WITH DIAERESIS;;GHE WITH DESCENDER;;YERU WITH DIAERESIS"),
    (0x4fb, "GHE WITH STROKE AND HOOK;;HA WITH HOOK;;HA WITH STROKE"), (0x511, "REVERSED ZE"),
    (0x513, "EL WITH HOOK;;LHA;;RHA;;YAE;;QA;;WE;;ALEUT KA;;EL WITH MIDDLE HOOK"),
    (0x523, "EN WITH MIDDLE HOOK;;PE WITH DESCENDER;;SHHA WITH DESCENDER;;EN WITH LEFT HOOK"),
    (0x52b, "DZZHE;;DCHE;;EL WITH DESCENDER")]⟩,
  ⟨"CYRILLIC ", [
    (0x482, "THOUSANDS SIGN"), (0x4c0, "LETTER PALOCHKA"), (0x1d2b, "LETTER SMALL CAPITAL EL")]⟩,
  ⟨"COMBINING CYRILLIC ", [
    (0x483, "TITLO;PALATALIZATION;DASIA PNEUMATA;PSILI PNEUMATA;POKRYTIE;HUNDRED THOUSANDS SIGN"),
    (0x489, "MILLIONS SIGN")]⟩,
  ⟨"CYRILLIC CAPITAL ", [
    (0x4a4, "LIGATURE EN GHE"), (0x4b4, "LIGATURE TE TSE"), (0x4d4, "LIGATURE A IE")]⟩,
  ⟨"CYRILLIC SMALL ", [
    (0x4a5, "LIGATURE EN GHE"), (0x4b5, "LIGATURE TE TSE"), (0x4d5, "LIGATURE A IE")]⟩,
  ⟨"CYRILLIC SMALL LETTER KOMI ", [(0x501, "DE;;DJE;;ZJE;;DZJE;;LJE;;NJE;;SJE;;TJE")]⟩,
  ⟨"ARMENIAN CAPITAL LETTER ", [
    (0x531, "AYB;BEN;GIM;DA;ECH;ZA;EH;ET;TO;ZHE;INI;LIWN;XEH;CA;KEN;HO;JA;GHAD;CHEH;MEN;YI;NOW"),
    (0x547, "SHA;VO;CHA;PEH;JHEH;RA;SEH;VEW;TIWN;REH;CO;YIWN;PIWR;KEH;OH;FEH")]⟩,
  ⟨"ARMENIAN ", [
    (0x559, "MODIFIER LETTER LEFT HALF RING;APOSTROPHE;EMPHASIS MARK;EXCLAMATION MARK;COMMA"),
    (0x55e, "QUESTION MARK;ABBREVIATION MARK"), (0x589, "FULL STOP;HYPHEN;;;;;DRAM SIGN")]⟩,
  ⟨"ARMENIAN SMALL LETTER ", [
    (0x560, "TURNED AYB;AYB;BEN;GIM;DA;ECH;ZA;EH;ET;TO;ZHE;INI;LIWN;XEH;CA;KEN;HO;JA;GHAD;CHEH"),
    (0x574, "MEN;YI;NOW;SHA;VO;CHA;PEH;JHEH;RA;SEH;VEW;TIWN;REH;CO;YIWN;PIWR;KEH;OH;FEH"),
    (0x588, "YI WITH STROKE")]⟩,
  ⟨"ARMENIAN SMALL ", [(0x587, "LIGATURE ECH YIWN")]⟩,
  ⟨"HEBREW ACCENT ", [
    (0x591, "ETNAHTA;SEGOL;SHALSHELET;ZAQEF QATAN;ZAQEF GADOL;TIPEHA;REVIA;ZARQA;PASHTA;YETIV"),
    (0x59b, "TEVIR;GERESH;GERESH MUQDAM;GERSHAYIM;QARNEY PARA;TELISHA GEDOLA;PAZER;ATNAH HAFUKH"),
    (0x5a3, "MUNAH;MAHAPAKH;MERKHA;MERKHA KEFULA;DARGA;QADMA;TELISHA QETANA;YERAH BEN YOMO;OLE"),
    (0x5ac, "ILUY;DEHI;ZINOR")]⟩,
  ⟨"HEBREW ", [
    (0x5af, "MARK MASORA CIRCLE"), (0x5c4, "MARK UPPER DOT;MARK LOWER DOT"),
    (0x5ef, "YOD TRIANGLE;LIGATURE YIDDISH DOUBLE VAV;LIGATURE YIDDISH VAV YOD"),
    (0x5f2, "LIGATURE YIDDISH DOUBLE YOD")]⟩,
  ⟨"HEBREW POINT ", [
    (0x5b0, "SHEVA;HATAF SEGOL;HATAF PATAH;HATAF QAMATS;HIRIQ;TSERE;SEGOL;PATAH;QAMATS;HOLAM"),
    (0x5ba, "HOLAM HASER FOR VAV;QUBUTS;DAGESH OR MAPIQ;METEG;;RAFE;;SHIN DOT;SIN DOT"),
    (0x5c7, "QAMATS QATAN")]⟩,
  ⟨"HEBREW PUNCTUATION ", [
    (0x5be, "MAQAF;;PASEQ;;;SOF PASUQ;;;NUN HAFUKHA"), (0x5f3, "GERESH;GERSHAYIM")]⟩,
  ⟨"HEBREW LETTER ", [
    (0x5d0, "ALEF;BET;GIMEL;DALET;HE;VAV;ZAYIN;HET;TET;YOD;FINAL KAF;KAF;LAMED;FINAL MEM;MEM"),
    (0x5df, "FINAL NUN;NUN;SAMEKH;AYIN;FINAL PE;PE;FINAL TSADI;TSADI;QOF;RESH;SHIN;TAV")]⟩,
  ⟨"ARABIC ", [
    (0x600, "NUMBER SIGN;;FOOTNOTE MARKER;;;NUMBER MARK ABOVE;;;RAY;;;;COMMA;DATE SEPARATOR"),
    (0x60e, "POETIC VERSE SIGN"), (0x61b, "SEMICOLON;;END OF TEXT MARK"),
    (0x61e, "TRIPLE DOT PUNCTUATION MARK;QUESTION MARK"), (0x640, "TATWEEL"), (0x64b, "FATHATAN"),
    (0x64c, "DAMMATAN;KASRATAN;FATHA;DAMMA;KASRA;SHADDA;SUKUN;MADDAH ABOVE;HAMZA ABOVE"),
    (0x655, "HAMZA BELOW;SUBSCRIPT ALEF;INVERTED DAMMA;MARK NOON GHUNNA;ZWARAKAY"),
    (0x65a, "VOWEL SIGN SMALL V ABOVE;VOWEL SIGN INVERTED SMALL V ABOVE;VOWEL SIGN DOT BELOW"),
    (0x65d, "REVERSED DAMMA;FATHA WITH TWO DOTS;WAVY HAMZA BELOW"), (0x66a, "PERCENT SIGN"),
    (0x66b, "DECIMAL SEPARATOR;THOUSANDS SEPARATOR;FIVE POINTED STAR"), (0x6d4, "FULL STOP"),
    (0x6dd, "END OF AYAH;START OF RUB EL HIZB"), (0x6e9, "PLACE OF SAJDAH;EMPTY CENTRE LOW STOP"),
    (0x6eb, "EMPTY CENTRE HIGH STOP;ROUNDED HIGH STOP WITH FILLED CENTRE"),
    (0x883, "TATWEEL WITH OVERSTRUCK HAMZA;TATWEEL WITH OVERSTRUCK WAW"),
    (0x885, "TATWEEL WITH TWO DOTS BELOW;;BASELINE ROUND DOT;RAISED ROUND DOT"),
    (0x88e, "VERTICAL TAIL;;POUND MARK ABOVE;PIASTRE MARK ABOVE"), (0x89c, "MADDA WAAJIB"),
    (0x89d, "SUPERSCRIPT ALEF MOKHASSAS;DOUBLED MADDA;HALF MADDA OVER MADDA"),
    (0x8ce, "LARGE ROUND DOT ABOVE;LARGE ROUND DOT BELOW;SUKUN BELOW;LARGE CIRCLE BELOW"),
    (0x8d2, "LARGE ROUND DOT INSIDE CIRCLE BELOW"), (0x8e2, "DISPUTED END OF AYAH"),
    (0x8e3, "TURNED DAMMA BELOW"), (0x8f0, "OPEN FATHATAN;OPEN DAMMATAN;OPEN KASRATAN"),
    (0x8f4, "FATHA WITH RING;FATHA WITH DOT ABOVE;KASRA WITH DOT BELOW;LEFT ARROWHEAD ABOVE"),
    (0x8f8, "RIGHT ARROWHEAD ABOVE;LEFT ARROWHEAD BELOW;RIGHT ARROWHEAD BELOW"),
    (0x8fb, "DOUBLE RIGHT ARROWHEAD ABOVE;DOUBLE RIGHT ARROWHEAD ABOVE WITH DOT"),
    (0x8fd, "RIGHT ARROWHEAD ABOVE WITH DOT;DAMMA WITH DOT;MARK SIDEWAYS NOON GHUNNA")]⟩,
  ⟨"ARABIC SIGN ", [
    (0x601, "SANAH;;SAFHA;SAMVAT"), (0x60f, "MISRA;SALLALLAHOU ALAYHE WASSALLAM;ALAYHE ASSALLAM"),
    (0x612, "RAHMATULLAH ALAYHE;RADI ALLAHOU ANHU;TAKHALLUS"), (0x6fd, "SINDHI AMPERSAND"),
    (0x6fe, "SINDHI POSTPOSITION MEN")]⟩,
  ⟨"ARABIC-INDIC ", [(0x606, "CUBE ROOT;FOURTH ROOT;;PER MILLE SIGN;PER TEN THOUSAND SIGN")]⟩,
  ⟨"ARABIC SMALL HIGH ", [
    (0x615, "TAH;LIGATURE ALEF WITH LAM WITH YEH;ZAIN"),
    (0x6d6, "LIGATURE SAD WITH LAM WITH ALEF MAKSURA;LIGATURE QAF WITH LAM WITH ALEF MAKSURA"),
    (0x6d8, "MEEM INITIAL FORM;LAM ALEF;JEEM;THREE DOTS;SEEN;;;ROUNDED ZERO"),
    (0x6e0, "UPRIGHT RECTANGULAR ZERO;DOTLESS HEAD OF KHAH;MEEM ISOLATED FORM;;MADDA;;;YEH;NOON"),
    (0x8ca, "FARSI YEH;YEH BARREE WITH TWO DOTS BELOW;;ZAH;;;;;;;;SAD;AIN;QAF;NOON WITH KASRA"),
    (0x8e0, "FOOTNOTE MARKER;SIGN SAFHA"), (0x8f3, "WAW")]⟩,
  ⟨"ARABIC SMALL ", [
    (0x618, "FATHA;DAMMA;KASRA"), (0x6e3, "LOW SEEN;;WAW;YEH;;;;;;;LOW MEEM"),
    (0x899, "LOW WORD ISHMAAM;LOW WORD IMAALA;LOW WORD TASHEEL"), (0x8c9, "FARSI YEH"),
    (0x8d3, "LOW WAW;;;;;;LOW NOON WITH KASRA")]⟩,
  ⟨"ARABIC LETTER ", [
    (0x61c, "MARK;;;;KASHMIRI YEH;HAMZA;;;;;;ALEF;BEH;TEH MARBUTA;TEH;THEH;JEEM;HAH;KHAH;DAL"),
    (0x630, "THAL;REH;ZAIN;SEEN;SHEEN;SAD;DAD;TAH;ZAH;AIN;GHAIN;;;;;;;FEH;QAF;KAF;LAM;MEEM;NOON"),
    (0x647, "HEH;WAW;;YEH"), (0x66e, "DOTLESS BEH;DOTLESS QAF;SUPERSCRIPT ALEF;;;;HIGH HAMZA"),
    (0x675, "HIGH HAMZA ALEF;HIGH HAMZA WAW;U WITH HAMZA ABOVE;HIGH HAMZA YEH;TTEH;TTEHEH;BEEH"),
    (0x67c, "TEH WITH RING;TEH WITH THREE DOTS ABOVE DOWNWARDS;PEH;TEHEH;BEHEH;;;NYEH;DYEH"),
    (0x686, "TCHEH;TCHEHEH;DDAL;;;;DAHAL;DDAHAL;DUL;;;RREH;;;;;;;JEH"),
    (0x69d, "SAD WITH TWO DOTS BELOW;SAD WITH THREE DOTS ABOVE;TAH WITH THREE DOTS ABOVE"),
    (0x6a0, "AIN WITH THREE DOTS ABOVE;DOTLESS FEH;FEH WITH DOT MOVED BELOW;FEH WITH DOT BELOW"),
    (0x6a4, "VEH;FEH WITH THREE DOTS BELOW;PEHEH;QAF WITH DOT ABOVE;QAF WITH THREE DOTS ABOVE"),
    (0x6a9, "KEHEH;SWASH KAF;KAF WITH RING;KAF WITH DOT ABOVE;NG;KAF WITH THREE DOTS BELOW;GAF"),
    (0x6b0, "GAF WITH RING;NGOEH;GAF WITH TWO DOTS BELOW;GUEH;GAF WITH THREE DOTS ABOVE"),
    (0x6bb, "RNOON;;;HEH DOACHASHMEE;TCHEH WITH DOT ABOVE;HEH WITH YEH ABOVE;HEH GOAL"),
    (0x6c2, "HEH GOAL WITH HAMZA ABOVE;TEH MARBUTA GOAL;;KIRGHIZ OE;OE;U;YU;KIRGHIZ YU;;VE"),
    (0x6d0, "E;;;;;AE"), (0x6fa, "SHEEN WITH DOT BELOW;DAD WITH DOT BELOW;GHAIN WITH DOT BELOW"),
    (0x6ff, "HEH WITH INVERTED V"), (0x75d, "AIN WITH TWO DOTS ABOVE"),
    (0x75e, "AIN WITH THREE DOTS POINTING DOWNWARDS ABOVE;AIN WITH TWO DOTS VERTICALLY ABOVE"),
    (0x760, "FEH WITH TWO DOTS BELOW;FEH WITH THREE DOTS POINTING UPWARDS BELOW"),
    (0x765, "MEEM WITH DOT ABOVE;MEEM WITH DOT BELOW"), (0x77f, "KAF WITH TWO DOTS ABOVE"),
    (0x886, "THIN YEH;;;;;TAH WITH DOT BELOW;TAH WITH THREE DOTS BELOW"),
    (0x8a2, "JEEM WITH TWO DOTS ABOVE;TAH WITH TWO DOTS ABOVE"),
    (0x8a4, "FEH WITH DOT BELOW AND THREE DOTS ABOVE;QAF WITH DOT BELOW"),
    (0x8a7, "MEEM WITH THREE DOTS ABOVE;;;;;ROHINGYA YEH;LOW ALEF;;SAD WITH THREE DOTS BELOW"),
    (0x8b0, "GAF WITH INVERTED STROKE;STRAIGHT WAW;ZAIN WITH INVERTED V ABOVE"),
    (0x8b3, "AIN WITH THREE DOTS BELOW;KAF WITH DOT BELOW;QAF WITH DOT BELOW AND NO DOTS ABOVE"),
    (0x8b7, "PEH WITH SMALL MEEM ABOVE;TEH WITH SMALL TEH ABOVE;;;AFRICAN FEH;AFRICAN QAF"),
    (0x8bd, "AFRICAN NOON;PEH WITH SMALL V;TEH WITH SMALL V;TTEH WITH SMALL V"),
    (0x8c1, "TCHEH WITH SMALL V;;GHAIN WITH THREE DOTS ABOVE;AFRICAN QAF WITH THREE DOTS ABOVE"),
    (0x8c5, "JEEM WITH THREE DOTS ABOVE;JEEM WITH THREE DOTS BELOW;;GRAF")]⟩,
  ⟨"ARABIC LETTER ALEF WITH ", [
    (0x622, "MADDA ABOVE;HAMZA ABOVE;;HAMZA BELOW"), (0x672, "WAVY HAMZA ABOVE;WAVY HAMZA BELOW"),
    (0x773, "EXTENDED ARABIC-INDIC DIGIT TWO ABOVE;EXTENDED ARABIC-INDIC DIGIT THREE ABOVE"),
    (0x872, "RIGHT MIDDLE STROKE;LEFT MIDDLE STROKE;;;;;;;DOT ABOVE"),
    (0x87c, "RIGHT MIDDLE STROKE AND DOT ABOVE;;;RIGHT MIDDLE STROKE AND LEFT RING")]⟩,
  ⟨"ARABIC LETTER WAW WITH ", [
    (0x624, "HAMZA ABOVE"), (0x6c4, "RING;;;;;;TWO DOTS ABOVE;;;;;DOT ABOVE"),
    (0x778, "EXTENDED ARABIC-INDIC DIGIT TWO ABOVE;EXTENDED ARABIC-INDIC DIGIT THREE ABOVE"),
    (0x8ab, "DOT WITHIN")]⟩,
  ⟨"ARABIC LETTER YEH WITH ", [
    (0x626, "HAMZA ABOVE"), (0x6cd, "TAIL;SMALL V;;;THREE DOTS BELOW"),
    (0x8a8, "TWO DOTS BELOW AND HAMZA ABOVE;TWO DOTS BELOW AND DOT ABOVE"),
    (0x8ba, "TWO DOTS BELOW AND SMALL NOON ABOVE")]⟩,
  ⟨"ARABIC LETTER KEHEH ", [
    (0x63b, "WITH TWO DOTS ABOVE;WITH THREE DOTS BELOW"), (0x762, "WITH DOT ABOVE"),
    (0x763, "WITH THREE DOTS ABOVE;WITH THREE DOTS POINTING UPWARDS BELOW"),
    (0x88d, "WITH TWO DOTS VERTICALLY BELOW"), (0x8c2, "WITH SMALL V")]⟩,
  ⟨"ARABIC LETTER FARSI ", [
    (0x63d, "YEH WITH INVERTED V;YEH WITH TWO DOTS ABOVE;YEH WITH THREE DOTS ABOVE"),
    (0x6cc, "YEH"), (0x775, "YEH WITH EXTENDED ARABIC-INDIC DIGIT TWO ABOVE"),
    (0x776, "YEH WITH EXTENDED ARABIC-INDIC DIGIT THREE ABOVE"),
    (0x777, "YEH WITH EXTENDED ARABIC-INDIC DIGIT FOUR BELOW")]⟩,
  ⟨"ARABIC LETTER ALEF ", [(0x649, "MAKSURA"), (0x671, "WASLA")]⟩,
  ⟨"ARABIC-INDIC DIGIT ", [(0x660, "ZERO;ONE;TWO;THREE;FOUR;FIVE;SIX;SEVEN;EIGHT;NINE")]⟩,
  ⟨"ARABIC LETTER HAH WITH ", [
    (0x681, "HAMZA ABOVE;TWO DOTS VERTICAL ABOVE;;;THREE DOTS ABOVE"), (0x757, "TWO DOTS ABOVE"),
    (0x758, "THREE DOTS POINTING UPWARDS BELOW"), (0x76e, "SMALL ARABIC LETTER TAH BELOW"),
    (0x76f, "SMALL ARABIC LETTER TAH AND TWO DOTS;;;SMALL ARABIC LETTER TAH ABOVE"),
    (0x77c, "EXTENDED ARABIC-INDIC DIGIT FOUR BELOW"), (0x88a, "INVERTED SMALL V BELOW")]⟩,
  ⟨"ARABIC LETTER DAL WITH ", [
    (0x689, "RING;DOT BELOW;DOT BELOW AND SMALL TAH;;;;THREE DOTS ABOVE DOWNWARDS"),
    (0x690, "FOUR DOTS ABOVE"), (0x6ee, "INVERTED V"),
    (0x759, "TWO DOTS VERTICALLY BELOW AND SMALL TAH;INVERTED SMALL V BELOW"),
    (0x8ae, "THREE DOTS BELOW")]⟩,
  ⟨"ARABIC LETTER REH WITH ", [
    (0x692, "SMALL V;RING;DOT BELOW;SMALL V BELOW;DOT BELOW AND DOT ABOVE;TWO DOTS ABOVE"),
    (0x699, "FOUR DOTS ABOVE"), (0x6ef, "INVERTED V"), (0x75b, "STROKE"),
    (0x76b, "TWO DOTS VERTICALLY ABOVE;HAMZA ABOVE;;;;;SMALL ARABIC LETTER TAH AND TWO DOTS"),
    (0x8aa, "LOOP"), (0x8b9, "SMALL NOON ABOVE")]⟩,
  ⟨"ARABIC LETTER SEEN WITH ", [
    (0x69a, "DOT BELOW AND DOT ABOVE;THREE DOTS BELOW;THREE DOTS BELOW AND THREE DOTS ABOVE"),
    (0x75c, "FOUR DOTS ABOVE"), (0x76d, "TWO DOTS VERTICALLY ABOVE"),
    (0x770, "SMALL ARABIC LETTER TAH AND TWO DOTS"),
    (0x77d, "EXTENDED ARABIC-INDIC DIGIT FOUR ABOVE;INVERTED V")]⟩,
  ⟨"ARABIC LETTER LAM WITH ", [
    (0x6b5, "SMALL V;DOT ABOVE;THREE DOTS ABOVE;THREE DOTS BELOW"), (0x76a, "BAR"),
    (0x8a6, "DOUBLE BAR"), (0x8c7, "SMALL ARABIC LETTER TAH ABOVE")]⟩,
  ⟨"ARABIC LETTER NOON ", [
    (0x6b9, "WITH DOT BELOW;GHUNNA;;WITH RING;WITH THREE DOTS ABOVE"),
    (0x767, "WITH TWO DOTS BELOW;WITH SMALL TAH;WITH SMALL V"), (0x889, "WITH INVERTED SMALL V")]⟩,
  ⟨"ARABIC LETTER YEH ", [
    (0x6d2, "BARREE;BARREE WITH HAMZA ABOVE"),
    (0x77a, "BARREE WITH EXTENDED ARABIC-INDIC DIGIT TWO ABOVE"),
    (0x77b, "BARREE WITH EXTENDED ARABIC-INDIC DIGIT THREE ABOVE")]⟩,
  ⟨"EXTENDED ARABIC-INDIC DIGIT ", [(0x6f0, "ZERO;ONE;TWO;THREE;FOUR;FIVE;SIX;SEVEN;EIGHT;NINE")]⟩,
  ⟨"SYRIAC ", [
    (0x700, "END OF PARAGRAPH;;;;;HORIZONTAL COLON;COLON SKEWED LEFT;COLON SKEWED RIGHT"),
    (0x70a, "CONTRACTION;HARKLEAN OBELUS;HARKLEAN METOBELUS;HARKLEAN ASTERISCUS"),
    (0x70f, "ABBREVIATION MARK"), (0x730, "PTHAHA ABOVE;PTHAHA BELOW;PTHAHA DOTTED;ZQAPHA ABOVE"),
    (0x734, "ZQAPHA BELOW;ZQAPHA DOTTED;RBASA ABOVE;RBASA BELOW;DOTTED ZLAMA HORIZONTAL"),
    (0x739, "DOTTED ZLAMA ANGULAR;HBASA ABOVE;HBASA BELOW;HBASA-ESASA DOTTED;ESASA ABOVE"),
    (0x73e, "ESASA BELOW;RWAHA;FEMININE DOT;QUSHSHAYA;RUKKAKHA;TWO VERTICAL DOTS ABOVE"),
    (0x744, "TWO VERTICAL DOTS BELOW;THREE DOTS ABOVE;THREE DOTS BELOW;OBLIQUE LINE ABOVE"),
    (0x748, "OBLIQUE LINE BELOW;MUSIC;BARREKH")]⟩,
  ⟨"SYRIAC SUPRALINEAR ", [(0x701, "FULL STOP;;COLON;;;;;COLON SKEWED LEFT")]⟩,
  ⟨"SYRIAC SUBLINEAR ", [(0x702, "FULL STOP;;COLON;;;;;COLON SKEWED RIGHT")]⟩,
  ⟨"SYRIAC LETTER ", [
    (0x710, "ALAPH;SUPERSCRIPT ALAPH;BETH;GAMAL;GAMAL GARSHUNI;DALATH;DOTLESS DALATH RISH;HE"),
    (0x718, "WAW;ZAIN;HETH;TETH;TETH GARSHUNI;YUDH;YUDH HE;KAPH;LAMADH;MIM;NUN;SEMKATH"),
    (0x724, "FINAL SEMKATH;E;PE;REVERSED PE;SADHE;QAPH;RISH;SHIN;TAW;PERSIAN BHETH"),
    (0x72e, "PERSIAN GHAMAL;PERSIAN DHALATH"), (0x74d, "SOGDIAN ZHAIN;SOGDIAN KHAPH;SOGDIAN FE")]⟩,
  ⟨"ARABIC LETTER BEH WITH ", [
    (0x750, "THREE DOTS HORIZONTALLY BELOW;DOT BELOW AND THREE DOTS ABOVE"),
    (0x752, "THREE DOTS POINTING UPWARDS BELOW"),
    (0x753, "THREE DOTS POINTING UPWARDS BELOW AND TWO DOTS ABOVE;TWO DOTS BELOW AND DOT ABOVE"),
    (0x755, "INVERTED SMALL V BELOW;SMALL V"), (0x8a0, "SMALL V BELOW;HAMZA ABOVE"),
    (0x8b6, "SMALL MEEM ABOVE")]⟩,
  ⟨"THAANA LETTER ", [
    (0x780, "HAA;SHAVIYANI;NOONU;RAA;BAA;LHAVIYANI;KAAFU;ALIFU;VAAVU;MEEMU;FAAFU;DHAALU;THAA"),
    (0x78d, "LAAMU;GAAFU;GNAVIYANI;SEENU;DAVIYANI;ZAVIYANI;TAVIYANI;YAA;PAVIYANI;JAVIYANI"),
    (0x797, "CHAVIYANI;TTAA;HHAA;KHAA;THAALU;ZAA;SHEENU;SAADHU;DAADHU;TO;ZO;AINU;GHAINU;QAAFU"),
    (0x7a5, "WAAVU"), (0x7b1, "NAA")]⟩,
  ⟨"THAANA ", [
    (0x7a6, "ABAFILI;AABAAFILI;IBIFILI;EEBEEFILI;UBUFILI;OOBOOFILI;EBEFILI;EYBEYFILI;OBOFILI"),
    (0x7af, "OABOAFILI;SUKUN")]⟩,
  ⟨"NKO DIGIT ", [(0x7c0, "ZERO;ONE;TWO;THREE;FOUR;FIVE;SIX;SEVEN;EIGHT;NINE")]⟩,
  ⟨"NKO LETTER ", [
    (0x7ca, "A;EE;I;E;U;OO;O;DAGBASINNA;N;BA;PA;TA;JA;CHA;DA;RA;RRA;SA;GBA;FA;KA;LA;NA WOLOSO"),
    (0x7e1, "MA;NYA;NA;HA;WA;YA;NYA WOLOSO;JONA JA;JONA CHA;JONA RA")]⟩,
  ⟨"NKO COMBINING ", [
    (0x7eb, "SHORT HIGH TONE;SHORT LOW TONE;SHORT RISING TONE;LONG DESCENDING TONE"),
    (0x7ef, "LONG HIGH TONE;LONG LOW TONE;LONG RISING TONE;NASALIZATION MARK;DOUBLE DOT ABOVE")]⟩,
  ⟨"NKO ", [
    (0x7f4, "HIGH TONE APOSTROPHE;LOW TONE APOSTROPHE;SYMBOL OO DENNEN;SYMBOL GBAKURUNEN;COMMA"),
    (0x7f9, "EXCLAMATION MARK;LAJANYALAN;;;DANTAYALAN;DOROME SIGN;TAMAN SIGN")]⟩,
  ⟨"SAMARITAN LETTER ", [
    (0x800, "ALAF;BIT;GAMAN;DALAT;IY;BAA;ZEN;IT;TIT;YUT;KAAF;LABAT;MIM;NUN;SINGAAT;IN;FI"),
    (0x811, "TSAADIY;QUF;RISH;SHAN;TAAF")]⟩,
  ⟨"SAMARITAN MARK ", [(0x816, "IN;IN-ALAF;OCCLUSION;DAGESH;;EPENTHETIC YUT"), (0x82d, "NEQUDAA")]⟩,
  ⟨"SAMARITAN ", [
    (0x81a, "MODIFIER LETTER EPENTHETIC YUT"), (0x824, "MODIFIER LETTER SHORT A"),
    (0x828, "MODIFIER LETTER I"), (0x836, "ABBREVIATION MARK")]⟩,
  ⟨"SAMARITAN VOWEL SIGN ", [
    (0x81c, "LONG E;E;OVERLONG AA;LONG AA;AA;OVERLONG A;LONG A;A;;SHORT A;LONG U;U;;LONG I;I;O"),
    (0x82c, "SUKUN")]⟩,
  ⟨"SAMARITAN PUNCTUATION ", [
    (0x830, "NEQUDAA;AFSAAQ;ANGED;BAU;ATMAAU;SHIYYAALAA;;MELODIC QITSA;ZIQAA;QITSA;ZAEF;TURU"),
    (0x83c, "ARKAANU;SOF MASHFAAT;ANNAAU")]⟩,
  ⟨"MANDAIC LETTER ", [
    (0x840, "HALQA;AB;AG;AD;AH;USHENNA;AZ;IT;ATT;AKSA;AK;AL;AM;AN;AS;IN;AP;ASZ;AQ;AR;ASH;AT"),
    (0x856, "DUSHENNA;KAD;AIN")]⟩,
  ⟨"MANDAIC ", [(0x859, "AFFRICATION MARK;VOCALIZATION MARK;GEMINATION MARK;;;PUNCTUATION")]⟩,
  ⟨"SYRIAC LETTER MALAYALAM ", [(0x860, "NGA;JA;NYA;TTA;NNA;NNNA;BHA;RA;LLA;LLLA;SSA")]⟩,
  ⟨"ARABIC LETTER ALEF WITH ATTACHED ", [
    (0x870, "FATHA;TOP RIGHT FATHA;;;KASRA;BOTTOM RIGHT KASRA;ROUND DOT ABOVE;RIGHT ROUND DOT"),
    (0x878, "LEFT ROUND DOT;ROUND DOT BELOW;;TOP RIGHT FATHA AND DOT ABOVE"),
    (0x87d, "BOTTOM RIGHT KASRA AND DOT ABOVE;TOP RIGHT FATHA AND LEFT RING"),
    (0x880, "BOTTOM RIGHT KASRA AND LEFT RING;RIGHT HAMZA;LEFT HAMZA")]⟩,
  ⟨"ARABIC SMALL HIGH WORD ", [
    (0x898, "AL-JUZ"), (0x8cc, "SAH;;;;;;;;AR-RUB;;;;;;ATH-THALATHA;AS-SAJDA;AN-NISF;SAKTA;QIF"),
    (0x8df, "WAQFA")]⟩,
  ⟨"ARABIC CURLY ", [(0x8e4, "FATHA;DAMMA;KASRA;FATHATAN;DAMMATAN;KASRATAN")]⟩,
  ⟨"ARABIC TONE ", [
    (0x8ea, "ONE DOT ABOVE;TWO DOTS ABOVE;LOOP ABOVE;ONE DOT BELOW;TWO DOTS BELOW;LOOP BELOW")]⟩,
  ⟨"LATIN SMALL LETTER SIDEWAYS ", [
    (0x1d11, "O;OPEN O;O WITH STROKE"), (0x1d1d, "U;DIAERESIZED U;TURNED M")]⟩,
  ⟨"GREEK LETTER SMALL CAPITAL ", [(0x1d26, "GAMMA;LAMDA;PI;RHO;PSI")]⟩,
  ⟨"MODIFIER LETTER CAPITAL ", [
    (0x1d2c, "A;AE;B;BARRED B;D;E;REVERSED E;G;H;I;J;K;L;M;N;REVERSED N;O;OU;P;R;T;U;W")]⟩,
  ⟨"LATIN SUBSCRIPT ", [(0x1d62, "SMALL LETTER I;SMALL LETTER R;SMALL LETTER U;SMALL LETTER V")]⟩,
  ⟨"GREEK SUBSCRIPT ", [
    (0x1d66, "SMALL LETTER BETA;SMALL LETTER GAMMA;SMALL LETTER RHO;SMALL LETTER PHI"),
    (0x1d6a, "SMALL LETTER CHI")]⟩,
  ⟨"COMBINING LATIN LETTER ", [
    (0x1ddb, "SMALL CAPITAL G;;;SMALL CAPITAL L;SMALL CAPITAL M;;SMALL CAPITAL N"),
    (0x1de2, "SMALL CAPITAL R")]⟩,
  ⟨"LATIN CAPITAL LETTER E WITH CIRCUMFLEX ", [
    (0x1e18, "BELOW"), (0x1ebe, "AND ACUTE;;AND GRAVE;;AND HOOK ABOVE;;AND TILDE;;AND DOT BELOW")]⟩,
  ⟨"LATIN SMALL LETTER E WITH CIRCUMFLEX ", [
    (0x1e19, "BELOW"), (0x1ebf, "AND ACUTE;;AND GRAVE;;AND HOOK ABOVE;;AND TILDE;;AND DOT BELOW")]⟩,
  ⟨"LATIN CAPITAL LETTER A WITH CIRCUMFLEX ", [
    (0x1ea4, "AND ACUTE;;AND GRAVE;;AND HOOK ABOVE;;AND TILDE;;AND DOT BELOW")]⟩,
  ⟨"LATIN SMALL LETTER A WITH CIRCUMFLEX ", [
    (0x1ea5, "AND ACUTE;;AND GRAVE;;AND HOOK ABOVE;;AND TILDE;;AND DOT BELOW")]⟩,
  ⟨"LATIN CAPITAL LETTER O WITH CIRCUMFLEX ", [
    (0x1ed0, "AND ACUTE;;AND GRAVE;;AND HOOK ABOVE;;AND TILDE;;AND DOT BELOW")]⟩,
  ⟨"LATIN SMALL LETTER O WITH CIRCUMFLEX ", [
    (0x1ed1, "AND ACUTE;;AND GRAVE;;AND HOOK ABOVE;;AND TILDE;;AND DOT BELOW")]⟩]

end ReceiptRules.Text.CharacterName
