import ReceiptRules.Text.CharacterName.Naming

/-!
# Names of musical, mathematical and other signs

The characters from 0x1d000 to 0x1efff: music, mathematics, sign languages, and a few scripts.
-/

namespace ReceiptRules.Text.CharacterName

def signs : List Family := [
  ⟨"BYZANTINE MUSICAL SYMBOL ", [
    (0x1d000, "PSILI;DASEIA;PERISPOMENI;OXEIA EKFONITIKON;OXEIA DIPLI;VAREIA EKFONITIKON"),
    (0x1d006, "VAREIA DIPLI;KATHISTI;SYRMATIKI;PARAKLITIKI;YPOKRISIS;YPOKRISIS DIPLI;KREMASTI"),
    (0x1d00d, "APESO EKFONITIKON;EXO EKFONITIKON;TELEIA;KENTIMATA;APOSTROFOS;APOSTROFOS DIPLI"),
    (0x1d013, "SYNEVMA;THITA;OLIGON ARCHAION;GORGON ARCHAION;PSILON;CHAMILON;VATHY"),
    (0x1d01a, "ISON ARCHAION;KENTIMA ARCHAION;KENTIMATA ARCHAION;SAXIMATA;PARICHON"),
    (0x1d01f, "STAVROS APODEXIA;OXEIAI ARCHAION;VAREIAI ARCHAION;APODERMA ARCHAION;APOTHEMA"),
    (0x1d024, "KLASMA;REVMA;PIASMA ARCHAION;TINAGMA;ANATRICHISMA;SEISMA;SYNAGMA ARCHAION"),
    (0x1d02b, "SYNAGMA META STAVROU;OYRANISMA ARCHAION;THEMA;LEMOI;DYO;TRIA;TESSERA;KRATIMATA"),
    (0x1d033, "APESO EXO NEO;;IMIFTHORA;TROMIKON ARCHAION;KATAVA TROMIKON;PELASTON;PSIFISTON"),
    (0x1d03a, "KONTEVMA;CHOREVMA ARCHAION;RAPISMA;PARAKALESMA ARCHAION;PARAKLITIKI ARCHAION"),
    (0x1d03f, "ICHADIN;NANA;PETASMA;KONTEVMA ALLO;TROMIKON ALLO;STRAGGISMATA;GRONTHISMATA"),
    (0x1d046, "ISON NEO;OLIGON NEO;OXEIA NEO;PETASTI;KOUFISMA;PETASTOKOUFISMA;KRATIMOKOUFISMA"),
    (0x1d04d, "PELASTON NEO;KENTIMATA NEO ANO;KENTIMA NEO ANO;YPSILI;APOSTROFOS NEO"),
    (0x1d052, "APOSTROFOI SYNDESMOS NEO;YPORROI;KRATIMOYPORROON;ELAFRON;CHAMILI;MIKRON ISON"),
    (0x1d058, "VAREIA NEO;PIASMA NEO;PSIFISTON NEO;OMALON;ANTIKENOMA;LYGISMA;PARAKLITIKI NEO"),
    (0x1d05f, "PARAKALESMA NEO;ETERON PARAKALESMA;KYLISMA;ANTIKENOKYLISMA;TROMIKON NEO"),
    (0x1d064, "EKSTREPTON;SYNAGMA NEO;SYRMA;CHOREVMA NEO;EPEGERMA;SEISMA NEO;XIRON KLASMA"),
    (0x1d06b, "TROMIKOPSIFISTON;PSIFISTOLYGISMA;TROMIKOLYGISMA;TROMIKOPARAKALESMA"),
    (0x1d06f, "PSIFISTOPARAKALESMA;TROMIKOSYNAGMA;PSIFISTOSYNAGMA;GORGOSYNTHETON;ARGOSYNTHETON"),
    (0x1d074, "ETERON ARGOSYNTHETON;OYRANISMA NEO;THEMATISMOS ESO;THEMATISMOS EXO;THEMA APLOUN"),
    (0x1d079, "THES KAI APOTHES;KATAVASMA;ENDOFONON;YFEN KATO;YFEN ANO;STAVROS;KLASMA ANO"),
    (0x1d080, "DIPLI ARCHAION;KRATIMA ARCHAION;KRATIMA ALLO;KRATIMA NEO;APODERMA NEO;APLI;DIPLI"),
    (0x1d087, "TRIPLI;TETRAPLI;KORONIS;LEIMMA ENOS CHRONOU;LEIMMA DYO CHRONON"),
    (0x1d08c, "LEIMMA TRION CHRONON;LEIMMA TESSARON CHRONON;LEIMMA IMISEOS CHRONOU"),
    (0x1d08f, "GORGON NEO ANO;GORGON PARESTIGMENON ARISTERA;GORGON PARESTIGMENON DEXIA;DIGORGON"),
    (0x1d093, "DIGORGON PARESTIGMENON ARISTERA KATO;DIGORGON PARESTIGMENON ARISTERA ANO"),
    (0x1d095, "DIGORGON PARESTIGMENON DEXIA;TRIGORGON;ARGON;IMIDIARGON;DIARGON"),
    (0x1d0ac, "ISAKIA TELOUS ICHIMATOS;APOSTROFOI TELOUS ICHIMATOS;FANEROSIS TETRAFONIAS"),
    (0x1d0af, "FANEROSIS MONOFONIAS;FANEROSIS DIFONIAS;;;;GORTHMIKON N APLOUN"),
    (0x1d0b5, "GORTHMIKON N DIPLOUN;ENARXIS KAI FTHORA VOU;IMIFONON;IMIFTHORON"),
    (0x1d0c5, "FHTORA SKLIRON CHROMA VASIS;;;CHROA ZYGOS;CHROA KLITON;CHROA SPATHI"),
    (0x1d0cd, "YFESIS TRITIMORION;DIESIS TRITIMORION;DIESIS TETARTIMORION"),
    (0x1d0d0, "DIESIS APLI DYO DODEKATA;DIESIS MONOGRAMMOS TESSERA DODEKATA"),
    (0x1d0d2, "DIESIS DIGRAMMOS EX DODEKATA;DIESIS TRIGRAMMOS OKTO DODEKATA"),
    (0x1d0d4, "YFESIS APLI DYO DODEKATA;YFESIS MONOGRAMMOS TESSERA DODEKATA"),
    (0x1d0d6, "YFESIS DIGRAMMOS EX DODEKATA;YFESIS TRIGRAMMOS OKTO DODEKATA;GENIKI DIESIS"),
    (0x1d0d9, "GENIKI YFESIS;DIASTOLI APLI MIKRI;DIASTOLI APLI MEGALI;DIASTOLI DIPLI"),
    (0x1d0dd, "DIASTOLI THESEOS"), (0x1d0e6, "DIGRAMMA GG;DIFTOGGOS OU;STIGMA"),
    (0x1d0f0, "KENTIMATA NEO MESO;KENTIMA NEO MESO;KENTIMATA NEO KATO;KENTIMA NEO KATO"),
    (0x1d0f4, "KLASMA KATO;GORGON NEO KATO")]⟩,
  ⟨"BYZANTINE MUSICAL SYMBOL FTHORA ", [
    (0x1d034, "ARCHAION"), (0x1d0b9, "ARCHAION DEYTEROU ICHOU;;;NAOS ICHOS;;SKLIRON DIATONON DI"),
    (0x1d0c3, "MALAKON CHROMA DIFONIAS;MALAKON CHROMA MONOFONIAS;;SKLIRON CHROMA SYNAFI;NENANO"),
    (0x1d0cb, "I YFESIS TETARTIMORION;ENARMONIOS ANTIFONIA")]⟩,
  ⟨"BYZANTINE MUSICAL SYMBOL AGOGI ", [
    (0x1d09a, "POLI ARGI;ARGOTERI;ARGI;METRIA;MESI;GORGI;GORGOTERI;POLI GORGI")]⟩,
  ⟨"BYZANTINE MUSICAL SYMBOL MARTYRIA ", [
    (0x1d0a2, "PROTOS ICHOS;ALLI PROTOS ICHOS;DEYTEROS ICHOS;ALLI DEYTEROS ICHOS;TRITOS ICHOS"),
    (0x1d0a7, "TRIFONIAS;TETARTOS ICHOS;TETARTOS LEGETOS ICHOS;LEGETOS ICHOS;PLAGIOS ICHOS"),
    (0x1d0b1, "VARYS ICHOS;PROTOVARYS ICHOS;PLAGIOS TETARTOS ICHOS")]⟩,
  ⟨"BYZANTINE MUSICAL SYMBOL FTHORA DIATONIKI ", [(0x1d0ba, "PA;NANA;;DI;;KE;ZO;NI KATO;NI ANO")]⟩,
  ⟨"BYZANTINE MUSICAL SYMBOL SIMANSIS ", [
    (0x1d0de, "THESEOS;THESEOS DISIMOU;THESEOS TRISIMOU;THESEOS TETRASIMOU;ARSEOS"),
    (0x1d0e3, "ARSEOS DISIMOU;ARSEOS TRISIMOU;ARSEOS TETRASIMOU")]⟩,
  ⟨"BYZANTINE MUSICAL SYMBOL ARKTIKO ", [(0x1d0e9, "PA;VOU;GA;DI;KE;ZO;NI")]⟩,
  ⟨"MUSICAL SYMBOL ", [
    (0x1d100, "SINGLE BARLINE;DOUBLE BARLINE;FINAL BARLINE;REVERSE FINAL BARLINE;DASHED BARLINE"),
    (0x1d105, "SHORT BARLINE;LEFT REPEAT SIGN;RIGHT REPEAT SIGN;REPEAT DOTS;DAL SEGNO;DA CAPO"),
    (0x1d10b, "SEGNO;CODA;REPEATED FIGURE-1;REPEATED FIGURE-2;REPEATED FIGURE-3;FERMATA"),
    (0x1d111, "FERMATA BELOW;BREATH MARK;CAESURA;BRACE;BRACKET;ONE-LINE STAFF;TWO-LINE STAFF"),
    (0x1d118, "THREE-LINE STAFF;FOUR-LINE STAFF;FIVE-LINE STAFF;SIX-LINE STAFF"),
    (0x1d11c, "SIX-STRING FRETBOARD;FOUR-STRING FRETBOARD;G CLEF;G CLEF OTTAVA ALTA"),
    (0x1d120, "G CLEF OTTAVA BASSA;C CLEF;F CLEF;F CLEF OTTAVA ALTA;F CLEF OTTAVA BASSA"),
    (0x1d125, "DRUM CLEF-1;DRUM CLEF-2;;;MULTIPLE MEASURE REST;DOUBLE SHARP;DOUBLE FLAT;FLAT UP"),
    (0x1d12d, "FLAT DOWN;NATURAL UP;NATURAL DOWN;SHARP UP;SHARP DOWN;QUARTER TONE SHARP"),
    (0x1d133, "QUARTER TONE FLAT;COMMON TIME;CUT TIME;OTTAVA ALTA;OTTAVA BASSA"),
    (0x1d138, "QUINDICESIMA ALTA;QUINDICESIMA BASSA;MULTI REST;WHOLE REST;HALF REST"),
    (0x1d13d, "QUARTER REST;EIGHTH REST;SIXTEENTH REST;THIRTY-SECOND REST;SIXTY-FOURTH REST"),
    (0x1d142, "ONE HUNDRED TWENTY-EIGHTH REST;X NOTEHEAD;PLUS NOTEHEAD;CIRCLE X NOTEHEAD"),
    (0x1d146, "SQUARE NOTEHEAD WHITE;SQUARE NOTEHEAD BLACK"), (0x1d152, "MOON NOTEHEAD WHITE"),
    (0x1d153, "MOON NOTEHEAD BLACK;TRIANGLE-ROUND NOTEHEAD DOWN WHITE"),
    (0x1d155, "TRIANGLE-ROUND NOTEHEAD DOWN BLACK;PARENTHESIS NOTEHEAD;VOID NOTEHEAD"),
    (0x1d158, "NOTEHEAD BLACK;NULL NOTEHEAD;CLUSTER NOTEHEAD WHITE;CLUSTER NOTEHEAD BLACK;BREVE"),
    (0x1d15d, "WHOLE NOTE;HALF NOTE;QUARTER NOTE;EIGHTH NOTE;SIXTEENTH NOTE;THIRTY-SECOND NOTE"),
    (0x1d163, "SIXTY-FOURTH NOTE;ONE HUNDRED TWENTY-EIGHTH NOTE;;;;;;FINGERED TREMOLO-1"),
    (0x1d16b, "FINGERED TREMOLO-2;FINGERED TREMOLO-3;;;;;;;BEGIN BEAM;END BEAM;BEGIN TIE"),
    (0x1d176, "END TIE;BEGIN SLUR;END SLUR;BEGIN PHRASE;END PHRASE"), (0x1d183, "ARPEGGIATO UP"),
    (0x1d184, "ARPEGGIATO DOWN;;;;;;;;RINFORZANDO;SUBITO;Z;PIANO;MEZZO;FORTE;CRESCENDO"),
    (0x1d193, "DECRESCENDO;GRACE NOTE SLASH;GRACE NOTE NO SLASH;TR;TURN;INVERTED TURN"),
    (0x1d199, "TURN SLASH;TURN UP"), (0x1d1a6, "HAUPTSTIMME;NEBENSTIMME;END OF STIMME"),
    (0x1d1a9, "DEGREE SLASH;;;;;PEDAL MARK;PEDAL UP MARK;HALF PEDAL MARK;GLISSANDO UP"),
    (0x1d1b2, "GLISSANDO DOWN;WITH FINGERNAILS;DAMP;DAMP ALL;MAXIMA;LONGA;BREVIS"),
    (0x1d1b9, "SEMIBREVIS WHITE;SEMIBREVIS BLACK;MINIMA;MINIMA BLACK;SEMIMINIMA WHITE"),
    (0x1d1be, "SEMIMINIMA BLACK;FUSA WHITE;FUSA BLACK;LONGA PERFECTA REST;LONGA IMPERFECTA REST"),
    (0x1d1c3, "BREVIS REST;SEMIBREVIS REST;MINIMA REST;SEMIMINIMA REST"), (0x1d1cf, "CROIX"),
    (0x1d1d0, "GREGORIAN C CLEF;GREGORIAN F CLEF;SQUARE B;VIRGA;PODATUS;CLIVIS;SCANDICUS"),
    (0x1d1d7, "CLIMACUS;TORCULUS;PORRECTUS;PORRECTUS FLEXUS;SCANDICUS FLEXUS;TORCULUS RESUPINUS"),
    (0x1d1dd, "PES SUBPUNCTIS"), (0x1d1e9, "SORI;KORON")]⟩,
  ⟨"MUSICAL SYMBOL TRIANGLE NOTEHEAD ", [
    (0x1d148, "UP WHITE;UP BLACK;LEFT WHITE;LEFT BLACK;RIGHT WHITE;RIGHT BLACK;DOWN WHITE"),
    (0x1d14f, "DOWN BLACK;UP RIGHT WHITE;UP RIGHT BLACK")]⟩,
  ⟨"MUSICAL SYMBOL COMBINING ", [
    (0x1d165, "STEM;SPRECHGESANG STEM;TREMOLO-1;TREMOLO-2;TREMOLO-3;;;;AUGMENTATION DOT;FLAG-1"),
    (0x1d16f, "FLAG-2;FLAG-3;FLAG-4;FLAG-5"), (0x1d17b, "ACCENT;STACCATO;TENUTO;STACCATISSIMO"),
    (0x1d17f, "MARCATO;MARCATO-STACCATO;ACCENT-STACCATO;LOURE;;;DOIT;RIP;FLIP;SMEAR;BEND"),
    (0x1d18a, "DOUBLE TONGUE;TRIPLE TONGUE"), (0x1d1aa, "DOWN BOW;UP BOW;HARMONIC"),
    (0x1d1ad, "SNAP PIZZICATO")]⟩,
  ⟨"MUSICAL SYMBOL ORNAMENT ", [
    (0x1d19b, "STROKE-1;STROKE-2;STROKE-3;STROKE-4;STROKE-5;STROKE-6;STROKE-7;STROKE-8;STROKE-9"),
    (0x1d1a4, "STROKE-10;STROKE-11")]⟩,
  ⟨"MUSICAL SYMBOL TEMPUS ", [
    (0x1d1c7, "PERFECTUM CUM PROLATIONE PERFECTA;PERFECTUM CUM PROLATIONE IMPERFECTA"),
    (0x1d1c9, "PERFECTUM CUM PROLATIONE PERFECTA DIMINUTION-1")]⟩,
  ⟨"MUSICAL SYMBOL TEMPUS IMPERFECTUM ", [
    (0x1d1ca, "CUM PROLATIONE PERFECTA;CUM PROLATIONE IMPERFECTA"),
    (0x1d1cc, "CUM PROLATIONE IMPERFECTA DIMINUTION-1;CUM PROLATIONE IMPERFECTA DIMINUTION-2"),
    (0x1d1ce, "CUM PROLATIONE IMPERFECTA DIMINUTION-3")]⟩,
  ⟨"MUSICAL SYMBOL KIEVAN ", [
    (0x1d1de, "C CLEF;END OF PIECE;FINAL NOTE;RECITATIVE MARK;WHOLE NOTE;HALF NOTE"),
    (0x1d1e4, "QUARTER NOTE STEM DOWN;QUARTER NOTE STEM UP;EIGHTH NOTE STEM DOWN"),
    (0x1d1e7, "EIGHTH NOTE STEM UP;FLAT SIGN")]⟩,
  ⟨"GREEK VOCAL NOTATION ", [
    (0x1d200, "SYMBOL-1;SYMBOL-2;SYMBOL-3;SYMBOL-4;SYMBOL-5;SYMBOL-6;SYMBOL-7;SYMBOL-8;SYMBOL-9"),
    (0x1d209, "SYMBOL-10;SYMBOL-11;SYMBOL-12;SYMBOL-13;SYMBOL-14;SYMBOL-15;SYMBOL-16;SYMBOL-17"),
    (0x1d211, "SYMBOL-18;SYMBOL-19;SYMBOL-20;SYMBOL-21;SYMBOL-22;SYMBOL-23;SYMBOL-24;SYMBOL-50"),
    (0x1d219, "SYMBOL-51;SYMBOL-52;SYMBOL-53;SYMBOL-54")]⟩,
  ⟨"GREEK INSTRUMENTAL NOTATION ", [
    (0x1d21d, "SYMBOL-1;SYMBOL-2;SYMBOL-4;SYMBOL-5;SYMBOL-7;SYMBOL-8;SYMBOL-11;SYMBOL-12"),
    (0x1d225, "SYMBOL-13;SYMBOL-14;SYMBOL-17;SYMBOL-18;SYMBOL-19;SYMBOL-23;SYMBOL-24;SYMBOL-25"),
    (0x1d22d, "SYMBOL-26;SYMBOL-27;SYMBOL-29;SYMBOL-30;SYMBOL-32;SYMBOL-36;SYMBOL-37;SYMBOL-38"),
    (0x1d235, "SYMBOL-39;SYMBOL-40;SYMBOL-42;SYMBOL-43;SYMBOL-45;SYMBOL-47;SYMBOL-48;SYMBOL-49"),
    (0x1d23d, "SYMBOL-50;SYMBOL-51;SYMBOL-52;SYMBOL-53;SYMBOL-54")]⟩,
  ⟨"COMBINING ", [
    (0x1d242, "GREEK MUSICAL TRISEME;GREEK MUSICAL TETRASEME;GREEK MUSICAL PENTASEME")]⟩,
  ⟨"GREEK ", [(0x1d245, "MUSICAL LEIMMA")]⟩,
  ⟨"MAYAN NUMERAL ", [
    (0x1d2e0, "ZERO;ONE;TWO;THREE;FOUR;FIVE;SIX;SEVEN;EIGHT;NINE;TEN;ELEVEN;TWELVE;THIRTEEN"),
    (0x1d2ee, "FOURTEEN;FIFTEEN;SIXTEEN;SEVENTEEN;EIGHTEEN;NINETEEN")]⟩,
  ⟨"", [(0x1d300, "MONOGRAM FOR EARTH"), (0x1d377, "TALLY MARK ONE;TALLY MARK FIVE")]⟩,
  ⟨"DIGRAM ", [
    (0x1d301, "FOR HEAVENLY EARTH;FOR HUMAN EARTH;FOR EARTHLY HEAVEN;FOR EARTHLY HUMAN"),
    (0x1d305, "FOR EARTH")]⟩,
  ⟨"TETRAGRAM FOR ", [
    (0x1d306, "CENTRE;FULL CIRCLE;MIRED;BARRIER;KEEPING SMALL;CONTRARIETY;ASCENT;OPPOSITION"),
    (0x1d30e, "BRANCHING OUT;DEFECTIVENESS OR DISTORTION;DIVERGENCE;YOUTHFULNESS;INCREASE"),
    (0x1d313, "PENETRATION;REACH;CONTACT;HOLDING BACK;WAITING;FOLLOWING;ADVANCE;RELEASE"),
    (0x1d31b, "RESISTANCE;EASE;JOY;CONTENTION;ENDEAVOUR;DUTIES;CHANGE;DECISIVENESS"),
    (0x1d323, "BOLD RESOLUTION;PACKING;LEGION;CLOSENESS;KINSHIP;GATHERING;STRENGTH;PURITY"),
    (0x1d32b, "FULLNESS;RESIDENCE;LAW OR MODEL;RESPONSE;GOING TO MEET;ENCOUNTERS;STOVE"),
    (0x1d332, "GREATNESS;ENLARGEMENT;PATTERN;RITUAL;FLIGHT;VASTNESS OR WASTING;CONSTANCY"),
    (0x1d339, "MEASURE;ETERNITY;UNITY;DIMINISHMENT;CLOSED MOUTH;GUARDEDNESS;GATHERING IN"),
    (0x1d340, "MASSING;ACCUMULATION;EMBELLISHMENT;DOUBT;WATCH;SINKING;INNER;DEPARTURE;DARKENING"),
    (0x1d349, "DIMMING;EXHAUSTION;SEVERANCE;STOPPAGE;HARDNESS;COMPLETION;CLOSURE;FAILURE"),
    (0x1d351, "AGGRAVATION;COMPLIANCE;ON THE VERGE;DIFFICULTIES;LABOURING;FOSTERING")]⟩,
  ⟨"COUNTING ROD UNIT DIGIT ", [(0x1d360, "ONE;TWO;THREE;FOUR;FIVE;SIX;SEVEN;EIGHT;NINE")]⟩,
  ⟨"COUNTING ROD TENS DIGIT ", [(0x1d369, "ONE;TWO;THREE;FOUR;FIVE;SIX;SEVEN;EIGHT;NINE")]⟩,
  ⟨"IDEOGRAPHIC TALLY ", [(0x1d372, "MARK ONE;MARK TWO;MARK THREE;MARK FOUR;MARK FIVE")]⟩,
  ⟨"MATHEMATICAL BOLD CAPITAL ", [
    (0x1d400, "A;B;C;D;E;F;G;H;I;J;K;L;M;N;O;P;Q;R;S;T;U;V;W;X;Y;Z"), (0x1d6a8, "ALPHA;BETA"),
    (0x1d6aa, "GAMMA;DELTA;EPSILON;ZETA;ETA;THETA;IOTA;KAPPA;LAMDA;MU;NU;XI;OMICRON;PI;RHO"),
    (0x1d6b9, "THETA SYMBOL;SIGMA;TAU;UPSILON;PHI;CHI;PSI;OMEGA"), (0x1d7ca, "DIGAMMA")]⟩,
  ⟨"MATHEMATICAL BOLD SMALL ", [
    (0x1d41a, "A;B;C;D;E;F;G;H;I;J;K;L;M;N;O;P;Q;R;S;T;U;V;W;X;Y;Z"), (0x1d6c2, "ALPHA;BETA"),
    (0x1d6c4, "GAMMA;DELTA;EPSILON;ZETA;ETA;THETA;IOTA;KAPPA;LAMDA;MU;NU;XI;OMICRON;PI;RHO"),
    (0x1d6d3, "FINAL SIGMA;SIGMA;TAU;UPSILON;PHI;CHI;PSI;OMEGA"), (0x1d7cb, "DIGAMMA")]⟩,
  ⟨"MATHEMATICAL ITALIC CAPITAL ", [
    (0x1d434, "A;B;C;D;E;F;G;H;I;J;K;L;M;N;O;P;Q;R;S;T;U;V;W;X;Y;Z"), (0x1d6e2, "ALPHA;BETA"),
    (0x1d6e4, "GAMMA;DELTA;EPSILON;ZETA;ETA;THETA;IOTA;KAPPA;LAMDA;MU;NU;XI;OMICRON;PI;RHO"),
    (0x1d6f3, "THETA SYMBOL;SIGMA;TAU;UPSILON;PHI;CHI;PSI;OMEGA")]⟩,
  ⟨"MATHEMATICAL ITALIC SMALL ", [
    (0x1d44e, "A;B;C;D;E;F;G;;I;J;K;L;M;N;O;P;Q;R;S;T;U;V;W;X;Y;Z"), (0x1d6a4, "DOTLESS I"),
    (0x1d6a5, "DOTLESS J"), (0x1d6fc, "ALPHA;BETA;GAMMA;DELTA;EPSILON;ZETA;ETA;THETA;IOTA;KAPPA"),
    (0x1d706, "LAMDA;MU;NU;XI;OMICRON;PI;RHO;FINAL SIGMA;SIGMA;TAU;UPSILON;PHI;CHI;PSI;OMEGA")]⟩,
  ⟨"MATHEMATICAL BOLD ITALIC CAPITAL ", [
    (0x1d468, "A;B;C;D;E;F;G;H;I;J;K;L;M;N;O;P;Q;R;S;T;U;V;W;X;Y;Z"), (0x1d71c, "ALPHA;BETA"),
    (0x1d71e, "GAMMA;DELTA;EPSILON;ZETA;ETA;THETA;IOTA;KAPPA;LAMDA;MU;NU;XI;OMICRON;PI;RHO"),
    (0x1d72d, "THETA SYMBOL;SIGMA;TAU;UPSILON;PHI;CHI;PSI;OMEGA")]⟩,
  ⟨"MATHEMATICAL BOLD ITALIC SMALL ", [
    (0x1d482, "A;B;C;D;E;F;G;H;I;J;K;L;M;N;O;P;Q;R;S;T;U;V;W;X;Y;Z"), (0x1d736, "ALPHA;BETA"),
    (0x1d738, "GAMMA;DELTA;EPSILON;ZETA;ETA;THETA;IOTA;KAPPA;LAMDA;MU;NU;XI;OMICRON;PI;RHO"),
    (0x1d747, "FINAL SIGMA;SIGMA;TAU;UPSILON;PHI;CHI;PSI;OMEGA")]⟩,
  ⟨"MATHEMATICAL SCRIPT CAPITAL ", [(0x1d49c, "A;;C;D;;;G;;;J;K;;;N;O;P;Q;;S;T;U;V;W;X;Y;Z")]⟩,
  ⟨"MATHEMATICAL SCRIPT SMALL ", [(0x1d4b6, "A;B;C;D;;F;;H;I;J;K;L;M;N;;P;Q;R;S;T;U;V;W;X;Y;Z")]⟩,
  ⟨"MATHEMATICAL BOLD SCRIPT CAPITAL ", [
    (0x1d4d0, "A;B;C;D;E;F;G;H;I;J;K;L;M;N;O;P;Q;R;S;T;U;V;W;X;Y;Z")]⟩,
  ⟨"MATHEMATICAL BOLD SCRIPT SMALL ", [
    (0x1d4ea, "A;B;C;D;E;F;G;H;I;J;K;L;M;N;O;P;Q;R;S;T;U;V;W;X;Y;Z")]⟩,
  ⟨"MATHEMATICAL FRAKTUR CAPITAL ", [(0x1d504, "A;B;;D;E;F;G;;;J;K;L;M;N;O;P;Q;;S;T;U;V;W;X;Y")]⟩,
  ⟨"MATHEMATICAL FRAKTUR SMALL ", [
    (0x1d51e, "A;B;C;D;E;F;G;H;I;J;K;L;M;N;O;P;Q;R;S;T;U;V;W;X;Y;Z")]⟩,
  ⟨"MATHEMATICAL DOUBLE-STRUCK CAPITAL ", [
    (0x1d538, "A;B;;D;E;F;G;;I;J;K;L;M;;O;;;;S;T;U;V;W;X;Y")]⟩,
  ⟨"MATHEMATICAL DOUBLE-STRUCK SMALL ", [
    (0x1d552, "A;B;C;D;E;F;G;H;I;J;K;L;M;N;O;P;Q;R;S;T;U;V;W;X;Y;Z")]⟩,
  ⟨"MATHEMATICAL BOLD FRAKTUR CAPITAL ", [
    (0x1d56c, "A;B;C;D;E;F;G;H;I;J;K;L;M;N;O;P;Q;R;S;T;U;V;W;X;Y;Z")]⟩,
  ⟨"MATHEMATICAL BOLD FRAKTUR SMALL ", [
    (0x1d586, "A;B;C;D;E;F;G;H;I;J;K;L;M;N;O;P;Q;R;S;T;U;V;W;X;Y;Z")]⟩,
  ⟨"MATHEMATICAL SANS-SERIF CAPITAL ", [
    (0x1d5a0, "A;B;C;D;E;F;G;H;I;J;K;L;M;N;O;P;Q;R;S;T;U;V;W;X;Y;Z")]⟩,
  ⟨"MATHEMATICAL SANS-SERIF SMALL ", [
    (0x1d5ba, "A;B;C;D;E;F;G;H;I;J;K;L;M;N;O;P;Q;R;S;T;U;V;W;X;Y;Z")]⟩,
  ⟨"MATHEMATICAL SANS-SERIF BOLD CAPITAL ", [
    (0x1d5d4, "A;B;C;D;E;F;G;H;I;J;K;L;M;N;O;P;Q;R;S;T;U;V;W;X;Y;Z"), (0x1d756, "ALPHA;BETA"),
    (0x1d758, "GAMMA;DELTA;EPSILON;ZETA;ETA;THETA;IOTA;KAPPA;LAMDA;MU;NU;XI;OMICRON;PI;RHO"),
    (0x1d767, "THETA SYMBOL;SIGMA;TAU;UPSILON;PHI;CHI;PSI;OMEGA")]⟩,
  ⟨"MATHEMATICAL SANS-SERIF BOLD SMALL ", [
    (0x1d5ee, "A;B;C;D;E;F;G;H;I;J;K;L;M;N;O;P;Q;R;S;T;U;V;W;X;Y;Z"), (0x1d770, "ALPHA;BETA"),
    (0x1d772, "GAMMA;DELTA;EPSILON;ZETA;ETA;THETA;IOTA;KAPPA;LAMDA;MU;NU;XI;OMICRON;PI;RHO"),
    (0x1d781, "FINAL SIGMA;SIGMA;TAU;UPSILON;PHI;CHI;PSI;OMEGA")]⟩,
  ⟨"MATHEMATICAL SANS-SERIF ITALIC CAPITAL ", [
    (0x1d608, "A;B;C;D;E;F;G;H;I;J;K;L;M;N;O;P;Q;R;S;T;U;V;W;X;Y;Z")]⟩,
  ⟨"MATHEMATICAL SANS-SERIF ITALIC SMALL ", [
    (0x1d622, "A;B;C;D;E;F;G;H;I;J;K;L;M;N;O;P;Q;R;S;T;U;V;W;X;Y;Z")]⟩,
  ⟨"MATHEMATICAL SANS-SERIF BOLD ITALIC CAPITAL ", [
    (0x1d63c, "A;B;C;D;E;F;G;H;I;J;K;L;M;N;O;P;Q;R;S;T;U;V;W;X;Y;Z"), (0x1d790, "ALPHA;BETA"),
    (0x1d792, "GAMMA;DELTA;EPSILON;ZETA;ETA;THETA;IOTA;KAPPA;LAMDA;MU;NU;XI;OMICRON;PI;RHO"),
    (0x1d7a1, "THETA SYMBOL;SIGMA;TAU;UPSILON;PHI;CHI;PSI;OMEGA")]⟩,
  ⟨"MATHEMATICAL SANS-SERIF BOLD ITALIC SMALL ", [
    (0x1d656, "A;B;C;D;E;F;G;H;I;J;K;L;M;N;O;P;Q;R;S;T;U;V;W;X;Y;Z"), (0x1d7aa, "ALPHA;BETA"),
    (0x1d7ac, "GAMMA;DELTA;EPSILON;ZETA;ETA;THETA;IOTA;KAPPA;LAMDA;MU;NU;XI;OMICRON;PI;RHO"),
    (0x1d7bb, "FINAL SIGMA;SIGMA;TAU;UPSILON;PHI;CHI;PSI;OMEGA")]⟩,
  ⟨"MATHEMATICAL MONOSPACE CAPITAL ", [
    (0x1d670, "A;B;C;D;E;F;G;H;I;J;K;L;M;N;O;P;Q;R;S;T;U;V;W;X;Y;Z")]⟩,
  ⟨"MATHEMATICAL MONOSPACE SMALL ", [
    (0x1d68a, "A;B;C;D;E;F;G;H;I;J;K;L;M;N;O;P;Q;R;S;T;U;V;W;X;Y;Z")]⟩,
  ⟨"MATHEMATICAL BOLD ", [
    (0x1d6c1, "NABLA"), (0x1d6db, "PARTIAL DIFFERENTIAL;EPSILON SYMBOL;THETA SYMBOL"),
    (0x1d6de, "KAPPA SYMBOL;PHI SYMBOL;RHO SYMBOL;PI SYMBOL")]⟩,
  ⟨"MATHEMATICAL ITALIC ", [
    (0x1d6fb, "NABLA"), (0x1d715, "PARTIAL DIFFERENTIAL;EPSILON SYMBOL;THETA SYMBOL"),
    (0x1d718, "KAPPA SYMBOL;PHI SYMBOL;RHO SYMBOL;PI SYMBOL")]⟩,
  ⟨"MATHEMATICAL BOLD ITALIC ", [
    (0x1d735, "NABLA"), (0x1d74f, "PARTIAL DIFFERENTIAL;EPSILON SYMBOL;THETA SYMBOL"),
    (0x1d752, "KAPPA SYMBOL;PHI SYMBOL;RHO SYMBOL;PI SYMBOL")]⟩,
  ⟨"MATHEMATICAL SANS-SERIF BOLD ", [
    (0x1d76f, "NABLA"), (0x1d789, "PARTIAL DIFFERENTIAL;EPSILON SYMBOL;THETA SYMBOL"),
    (0x1d78c, "KAPPA SYMBOL;PHI SYMBOL;RHO SYMBOL;PI SYMBOL")]⟩,
  ⟨"MATHEMATICAL SANS-SERIF BOLD ITALIC ", [
    (0x1d7a9, "NABLA"), (0x1d7c3, "PARTIAL DIFFERENTIAL;EPSILON SYMBOL;THETA SYMBOL"),
    (0x1d7c6, "KAPPA SYMBOL;PHI SYMBOL;RHO SYMBOL;PI SYMBOL")]⟩,
  ⟨"MATHEMATICAL BOLD DIGIT ", [(0x1d7ce, "ZERO;ONE;TWO;THREE;FOUR;FIVE;SIX;SEVEN;EIGHT;NINE")]⟩,
  ⟨"MATHEMATICAL DOUBLE-STRUCK DIGIT ", [
    (0x1d7d8, "ZERO;ONE;TWO;THREE;FOUR;FIVE;SIX;SEVEN;EIGHT;NINE")]⟩,
  ⟨"MATHEMATICAL SANS-SERIF DIGIT ", [
    (0x1d7e2, "ZERO;ONE;TWO;THREE;FOUR;FIVE;SIX;SEVEN;EIGHT;NINE")]⟩,
  ⟨"MATHEMATICAL SANS-SERIF BOLD DIGIT ", [
    (0x1d7ec, "ZERO;ONE;TWO;THREE;FOUR;FIVE;SIX;SEVEN;EIGHT;NINE")]⟩,
  ⟨"MATHEMATICAL MONOSPACE DIGIT ", [
    (0x1d7f6, "ZERO;ONE;TWO;THREE;FOUR;FIVE;SIX;SEVEN;EIGHT;NINE")]⟩,
  ⟨"SIGNWRITING HAND-FIST ", [
    (0x1d800, "INDEX"), (0x1d84a, "FOUR FINGERS CONJOINED BENT"), (0x1d8f5, "THUMB"),
    (0x1d904, "HEEL")]⟩,
  ⟨"SIGNWRITING HAND-CIRCLE ", [
    (0x1d801, "INDEX"), (0x1d894, "LITTLE UP"), (0x1d8a1, "LITTLE INDEX"),
    (0x1d8b1, "RING LITTLE"), (0x1d8c7, "MIDDLE UP;;;;;;;MIDDLE RING LITTLE"),
    (0x1d8d5, "MIDDLE RING LITTLE BENT")]⟩,
  ⟨"SIGNWRITING HAND-CUP ", [
    (0x1d802, "INDEX"), (0x1d853, "FIVE FINGERS SPREAD;FIVE FINGERS SPREAD OPEN"),
    (0x1d86c, "OPEN;;OPEN THUMB SIDE;THUMB SIDE;OPEN NO THUMB;NO THUMB;OPEN THUMB FORWARD"),
    (0x1d873, "THUMB FORWARD"), (0x1d8c0, "INDEX RING LITTLE"), (0x1d8d0, "MIDDLE RING LITTLE"),
    (0x1d8ec, "INDEX THUMB;INDEX THUMB OPEN")]⟩,
  ⟨"SIGNWRITING HAND-OVAL ", [
    (0x1d803, "INDEX"), (0x1d856, "FIVE FINGERS SPREAD"), (0x1d878, "THUMB SIDE;NO THUMB"),
    (0x1d87a, "THUMB FORWARD"), (0x1d895, "LITTLE UP"), (0x1d8b2, "RING LITTLE")]⟩,
  ⟨"SIGNWRITING HAND-HINGE ", [
    (0x1d804, "INDEX"), (0x1d84b, "FOUR FINGERS CONJOINED"),
    (0x1d855, "FIVE FINGERS SPREAD OPEN"), (0x1d87b, "OPEN;OPEN THUMB FORWARD;;SMALL"),
    (0x1d87f, "OPEN THUMB SIDE;THUMB SIDE;OPEN NO THUMB;NO THUMB;THUMB SIDE TOUCHING INDEX"),
    (0x1d884, "THUMB BETWEEN MIDDLE RING;;;;;;LITTLE"), (0x1d89b, "LITTLE THUMB"),
    (0x1d89d, "LITTLE INDEX THUMB;;;;;LITTLE INDEX;;;;;RING"),
    (0x1d8ac, "RING DOWN INDEX THUMB HOOK MIDDLE"), (0x1d8c5, "MIDDLE"),
    (0x1d8d1, "MIDDLE RING LITTLE")]⟩,
  ⟨"SIGNWRITING HAND-ANGLE ", [
    (0x1d805, "INDEX"), (0x1d896, "LITTLE UP;;;;;;;;LITTLE INDEX THUMB INDEX THUMB OUT"),
    (0x1d89f, "LITTLE INDEX THUMB INDEX THUMB;;;;LITTLE INDEX"),
    (0x1d8ad, "RING DOWN MIDDLE THUMB INDEX CROSS;;;;;;RING LITTLE"),
    (0x1d8d2, "MIDDLE RING LITTLE OUT;MIDDLE RING LITTLE IN;MIDDLE RING LITTLE")]⟩,
  ⟨"SIGNWRITING HAND-FIST INDEX ", [
    (0x1d806, "BENT;;;RAISED KNUCKLE;CUPPED;HINGED;HINGED LOW;;MIDDLE;;;;;UP MIDDLE HINGED"),
    (0x1d814, "HINGED MIDDLE UP"), (0x1d81d, "BENT OVER MIDDLE"),
    (0x1d824, "UP MIDDLE HINGED THUMB SIDE;UP MIDDLE HINGED THUMB CONJOINED"),
    (0x1d826, "HINGED MIDDLE UP THUMB SIDE"), (0x1d8ba, "RING LITTLE")]⟩,
  ⟨"SIGNWRITING HAND-CIRCLE INDEX ", [
    (0x1d807, "BENT;;;;;;HINGE;;MIDDLE"), (0x1d81b, "MIDDLE CROSSED;;;;MIDDLE THUMB"),
    (0x1d887, "MIDDLE RING"), (0x1d8a5, "MIDDLE LITTLE;;;;;MIDDLE CROSS LITTLE"),
    (0x1d8bb, "RING LITTLE")]⟩,
  ⟨"SIGNWRITING HAND-FIST THUMB ", [
    (0x1d808, "UNDER INDEX BENT"), (0x1d82c, "BETWEEN INDEX MIDDLE STRAIGHT"),
    (0x1d893, "UNDER LITTLE UP"), (0x1d8f6, "HEEL;SIDE DIAGONAL;SIDE CONJOINED;SIDE BENT"),
    (0x1d8fa, "FORWARD;BETWEEN INDEX MIDDLE;BETWEEN MIDDLE RING;BETWEEN RING LITTLE"),
    (0x1d8fe, "UNDER TWO FINGERS;OVER TWO FINGERS;UNDER THREE FINGERS;UNDER FOUR FINGERS"),
    (0x1d902, "OVER FOUR RAISED KNUCKLES")]⟩,
  ⟨"SIGNWRITING HAND-FIST INDEX MIDDLE ", [
    (0x1d810, "BENT;RAISED KNUCKLES;HINGED;;;CONJOINED;;;;;CROSSED;;;;THUMB"),
    (0x1d820, "STRAIGHT THUMB BENT;BENT THUMB STRAIGHT;THUMB BENT;HINGED SPREAD THUMB SIDE"),
    (0x1d827, "UP SPREAD THUMB FORWARD;THUMB CUPPED;THUMB CIRCLED;THUMB HOOKED;THUMB HINGED"),
    (0x1d833, "CROSSED THUMB SIDE"), (0x1d83d, "THUMB CONJOINED HINGED;THUMB ANGLED OUT"),
    (0x1d83f, "THUMB ANGLED"), (0x1d886, "RING;;;;;RING BENT;RING CONJOINED"),
    (0x1d8a4, "LITTLE;;;;;CROSS LITTLE")]⟩,
  ⟨"SIGNWRITING HAND-FIST INDEX MIDDLE CONJOINED ", [
    (0x1d816, "INDEX BENT;MIDDLE BENT;CUPPED;HINGED"), (0x1d82d, "THUMB SIDE"),
    (0x1d82e, "THUMB SIDE CONJOINED;THUMB SIDE BENT;;;HINGED THUMB SIDE;;THUMB FORWARD"),
    (0x1d835, "CUPPED THUMB FORWARD")]⟩,
  ⟨"SIGNWRITING HAND-FIST MIDDLE ", [
    (0x1d81c, "BENT OVER INDEX"), (0x1d8c4, "DOWN;;UP;;RAISED KNUCKLE;UP THUMB SIDE;;;LITTLE"),
    (0x1d8cd, "RING LITTLE")]⟩,
  ⟨"SIGNWRITING HAND-FIST MIDDLE THUMB ", [
    (0x1d830, "HOOKED INDEX UP;;;;;;CUPPED INDEX UP;;CIRCLED INDEX UP;CIRCLED INDEX HINGED"),
    (0x1d840, "ANGLED OUT INDEX UP;ANGLED OUT INDEX CROSSED;ANGLED INDEX UP"),
    (0x1d8cb, "LITTLE")]⟩,
  ⟨"SIGNWRITING HAND-FIST INDEX THUMB ", [
    (0x1d831, "HOOKED MIDDLE UP;;;;;;CUPPED MIDDLE UP;;;ANGLED OUT MIDDLE UP"),
    (0x1d83b, "ANGLED IN MIDDLE UP;CIRCLED MIDDLE UP;;;;;;;HOOKED MIDDLE HINGED"),
    (0x1d8dc, "SIDE;;SIDE THUMB DIAGONAL;SIDE THUMB CONJOINED;SIDE THUMB BENT;SIDE INDEX BENT"),
    (0x1d8e2, "SIDE BOTH BENT;SIDE INDEX HINGE;FORWARD INDEX STRAIGHT;FORWARD INDEX BENT;HOOK"),
    (0x1d8e7, "CURLICUE;CURVE THUMB INSIDE;;CURVE THUMB UNDER;CIRCLE")]⟩,
  ⟨"SIGNWRITING HAND-FLAT ", [
    (0x1d844, "FOUR FINGERS;FOUR FINGERS BENT;FOUR FINGERS HINGED;FOUR FINGERS CONJOINED"),
    (0x1d848, "FOUR FINGERS CONJOINED SPLIT;;;;;HEEL FIVE FINGERS SPREAD"),
    (0x1d84f, "HEEL FIVE FINGERS SPREAD FOUR BENT;;HEEL FIVE FINGERS SPREAD BENT"),
    (0x1d85b, "BETWEEN PALM FACINGS;HEEL;THUMB SIDE;HEEL THUMB SIDE;THUMB BENT;THUMB FORWARD"),
    (0x1d861, "SPLIT INDEX THUMB SIDE;SPLIT CENTRE;SPLIT CENTRE THUMB SIDE"),
    (0x1d864, "SPLIT CENTRE THUMB SIDE BENT;SPLIT LITTLE")]⟩,
  ⟨"SIGNWRITING HAND-CLAW ", [
    (0x1d849, "FOUR FINGERS CONJOINED"), (0x1d867, "THUMB SIDE;NO THUMB;THUMB FORWARD"),
    (0x1d8d6, "MIDDLE RING LITTLE CONJOINED;MIDDLE RING LITTLE CONJOINED SIDE"),
    (0x1d8e9, "INDEX THUMB CURVE THUMB INSIDE")]⟩,
  ⟨"SIGNWRITING HAND-FLAT FIVE FINGERS ", [
    (0x1d84c, "SPREAD;;SPREAD FOUR BENT;;SPREAD BENT;;SPREAD THUMB FORWARD;;;;;SPREAD HINGED"),
    (0x1d858, "SPREAD HINGED THUMB SIDE;SPREAD HINGED NO THUMB")]⟩,
  ⟨"SIGNWRITING ", [
    (0x1d85a, "HAND-FLAT"), (0x1d866, "HAND-CLAW;;;;;HAND-HOOK;;HAND-CUP;;;;;;;;HAND-CURLICUE"),
    (0x1d876, "HAND-CIRCLE;HAND-OVAL;;;;;;HAND-HINGE;;;;;;;;HAND-ANGLE"), (0x1d903, "HAND-FIST"),
    (0x1d905, "TOUCH SINGLE;TOUCH MULTIPLE;TOUCH BETWEEN;GRASP SINGLE;GRASP MULTIPLE"),
    (0x1d90a, "GRASP BETWEEN;STRIKE SINGLE;STRIKE MULTIPLE;STRIKE BETWEEN;BRUSH SINGLE"),
    (0x1d90f, "BRUSH MULTIPLE;BRUSH BETWEEN;RUB SINGLE;RUB MULTIPLE;RUB BETWEEN;SURFACE SYMBOLS"),
    (0x1d915, "SURFACE BETWEEN"), (0x1d9ff, "HEAD"),
    (0x1da07, "FACE DIRECTION POSITION NOSE FORWARD TILTING"),
    (0x1da08, "FACE DIRECTION POSITION NOSE UP OR DOWN"),
    (0x1da09, "FACE DIRECTION POSITION NOSE UP OR DOWN TILTING;EYEBROWS STRAIGHT UP"),
    (0x1da0b, "EYEBROWS STRAIGHT NEUTRAL;EYEBROWS STRAIGHT DOWN;DREAMY EYEBROWS NEUTRAL DOWN"),
    (0x1da0e, "DREAMY EYEBROWS DOWN NEUTRAL;DREAMY EYEBROWS UP NEUTRAL"),
    (0x1da10, "DREAMY EYEBROWS NEUTRAL UP;FOREHEAD NEUTRAL;FOREHEAD CONTACT;FOREHEAD WRINKLED"),
    (0x1da17, "EYE BLINK SINGLE;EYE BLINK MULTIPLE;;;;;EYE WINK;EYELASHES UP;EYELASHES DOWN"),
    (0x1da20, "EYELASHES FLUTTERING"), (0x1da2a, "CHEEKS PUFFED;CHEEKS NEUTRAL;CHEEKS SUCKED"),
    (0x1da2d, "TENSE CHEEKS HIGH;TENSE CHEEKS MIDDLE;TENSE CHEEKS LOW;EARS;NOSE NEUTRAL"),
    (0x1da32, "NOSE CONTACT;NOSE WRINKLES;NOSE WIGGLES;AIR BLOWING OUT;AIR SUCKING IN"),
    (0x1da37, "AIR BLOW SMALL ROTATIONS;AIR SUCK SMALL ROTATIONS;BREATH INHALE;BREATH EXHALE"),
    (0x1da53, "LIPS PRESSED TOGETHER;LIP LOWER OVER UPPER;LIP UPPER OVER LOWER"),
    (0x1da61, "TEETH"), (0x1da6a, "NECK;HAIR;EXCITEMENT;SHOULDER HIP SPINE"),
    (0x1da6e, "SHOULDER HIP POSITIONS;WALLPLANE SHOULDER HIP MOVE;FLOORPLANE SHOULDER HIP MOVE"),
    (0x1da71, "SHOULDER TILTING FROM WAIST;TORSO-WALLPLANE STRAIGHT STRETCH"),
    (0x1da73, "TORSO-WALLPLANE CURVED BEND;TORSO-FLOORPLANE TWISTING"),
    (0x1da75, "UPPER BODY TILTING FROM HIP JOINTS"), (0x1da7e, "FINGER;LOCATION-WALLPLANE SPACE"),
    (0x1da80, "LOCATION-FLOORPLANE SPACE;;;;;;;COMMA;FULL STOP;SEMICOLON;COLON;PARENTHESIS"),
    (0x1da9b, "FILL MODIFIER-2;FILL MODIFIER-3;FILL MODIFIER-4;FILL MODIFIER-5;FILL MODIFIER-6")]⟩,
  ⟨"SIGNWRITING HAND-HOOK ", [
    (0x1d86a, "CURLICUE"), (0x1d8b9, "RING THUMB;;;;INDEX RING LITTLE OUT;INDEX RING LITTLE IN"),
    (0x1d8bf, "INDEX RING LITTLE UNDER"), (0x1d8ca, "MIDDLE THUMB"),
    (0x1d8d8, "MIDDLE RING LITTLE CONJOINED OUT;MIDDLE RING LITTLE CONJOINED IN"),
    (0x1d8da, "MIDDLE RING LITTLE CONJOINED")]⟩,
  ⟨"SIGNWRITING HAND-CURLICUE ", [
    (0x1d874, "OPEN"), (0x1d8bc, "INDEX RING LITTLE ON"), (0x1d8cf, "MIDDLE RING LITTLE ON")]⟩,
  ⟨"SIGNWRITING HAND-HINGE INDEX ", [
    (0x1d888, "MIDDLE RING;;;;;MIDDLE RING CONJOINED"), (0x1d8a6, "MIDDLE LITTLE"),
    (0x1d8c1, "RING LITTLE"), (0x1d8db, "HINGED;;THUMB SIDE"), (0x1d8ee, "THUMB OPEN"),
    (0x1d8ef, "THUMB LARGE;THUMB;THUMB SMALL")]⟩,
  ⟨"SIGNWRITING HAND-ANGLE INDEX ", [
    (0x1d889, "MIDDLE RING"), (0x1d8a8, "MIDDLE LITTLE"), (0x1d8c2, "RING LITTLE OUT"),
    (0x1d8c3, "RING LITTLE"), (0x1d8f2, "THUMB OUT;THUMB IN;THUMB")]⟩,
  ⟨"SIGNWRITING HAND-FIST LITTLE ", [
    (0x1d88e, "DOWN;DOWN RIPPLE STRAIGHT;DOWN RIPPLE CURVED;DOWN OTHERS CIRCLED;UP"),
    (0x1d897, "RAISED KNUCKLE;BENT;TOUCHES THUMB;THUMB;;INDEX THUMB;;;;INDEX")]⟩,
  ⟨"SIGNWRITING HAND-FIST RING ", [
    (0x1d8ab, "DOWN;;;UP;RAISED KNUCKLE;LITTLE;;;;MIDDLE;MIDDLE CONJOINED"),
    (0x1d8b6, "MIDDLE RAISED KNUCKLES;INDEX;THUMB")]⟩,
  ⟨"SIGNWRITING SQUEEZE ", [
    (0x1d916, "LARGE SINGLE;SMALL SINGLE;LARGE MULTIPLE;SMALL MULTIPLE;SEQUENTIAL"),
    (0x1d920, "FLICK ALTERNATING")]⟩,
  ⟨"SIGNWRITING FLICK ", [
    (0x1d91b, "LARGE SINGLE;SMALL SINGLE;LARGE MULTIPLE;SMALL MULTIPLE;SEQUENTIAL")]⟩,
  ⟨"SIGNWRITING MOVEMENT-HINGE ", [
    (0x1d921, "UP DOWN LARGE;UP DOWN SMALL;UP SEQUENTIAL;DOWN SEQUENTIAL"),
    (0x1d925, "UP DOWN ALTERNATING LARGE;UP DOWN ALTERNATING SMALL;SIDE TO SIDE SCISSORS")]⟩,
  ⟨"SIGNWRITING MOVEMENT-WALLPLANE ", [
    (0x1d928, "FINGER CONTACT;;SINGLE STRAIGHT SMALL;SINGLE STRAIGHT MEDIUM"),
    (0x1d92c, "SINGLE STRAIGHT LARGE;SINGLE STRAIGHT LARGEST;SINGLE WRIST FLEX;DOUBLE STRAIGHT"),
    (0x1d930, "DOUBLE WRIST FLEX;DOUBLE ALTERNATING;DOUBLE ALTERNATING WRIST FLEX;CROSS"),
    (0x1d934, "TRIPLE STRAIGHT MOVEMENT;TRIPLE WRIST FLEX;TRIPLE ALTERNATING"),
    (0x1d937, "TRIPLE ALTERNATING WRIST FLEX;BEND SMALL;BEND MEDIUM;BEND LARGE;CORNER SMALL"),
    (0x1d93c, "CORNER MEDIUM;CORNER LARGE;CORNER ROTATION;CHECK SMALL;CHECK MEDIUM;CHECK LARGE"),
    (0x1d942, "BOX SMALL;BOX MEDIUM;BOX LARGE;ZIGZAG SMALL;ZIGZAG MEDIUM;ZIGZAG LARGE"),
    (0x1d948, "PEAKS SMALL;PEAKS MEDIUM;PEAKS LARGE"), (0x1d992, "HUMP SMALL;HUMP MEDIUM"),
    (0x1d994, "HUMP LARGE;LOOP SMALL;LOOP MEDIUM;LOOP LARGE;LOOP SMALL DOUBLE"),
    (0x1d9a0, "CURVED CROSS SMALL;CURVED CROSS MEDIUM;;;;SHAKING;;HUMP HITTING FRONT WALL"),
    (0x1d9a8, "LOOP HITTING FRONT WALL;;;;;;HUMP HITTING CHEST;LOOP HITTING CHEST"),
    (0x1d9e3, "ARM CIRCLE SMALL SINGLE;ARM CIRCLE MEDIUM SINGLE;ARM CIRCLE SMALL DOUBLE"),
    (0x1d9e6, "ARM CIRCLE MEDIUM DOUBLE;;;;;;;WRIST CIRCLE FRONT SINGLE"),
    (0x1d9ee, "WRIST CIRCLE FRONT DOUBLE;;;FINGER CIRCLES SINGLE;FINGER CIRCLES DOUBLE"),
    (0x1da68, "JAW")]⟩,
  ⟨"SIGNWRITING MOVEMENT-FLOORPLANE ", [
    (0x1d929, "FINGER CONTACT"), (0x1d965, "SINGLE STRAIGHT SMALL;SINGLE STRAIGHT MEDIUM"),
    (0x1d967, "SINGLE STRAIGHT LARGE;SINGLE STRAIGHT LARGEST;SINGLE WRIST FLEX;DOUBLE STRAIGHT"),
    (0x1d96b, "DOUBLE WRIST FLEX;DOUBLE ALTERNATING;DOUBLE ALTERNATING WRIST FLEX;CROSS"),
    (0x1d96f, "TRIPLE STRAIGHT MOVEMENT;TRIPLE WRIST FLEX;TRIPLE ALTERNATING MOVEMENT"),
    (0x1d972, "TRIPLE ALTERNATING WRIST FLEX;BEND;CORNER SMALL;CORNER MEDIUM;CORNER LARGE;CHECK"),
    (0x1d978, "BOX SMALL;BOX MEDIUM;BOX LARGE;ZIGZAG SMALL;ZIGZAG MEDIUM;ZIGZAG LARGE"),
    (0x1d97e, "PEAKS SMALL;PEAKS MEDIUM;PEAKS LARGE"), (0x1d9c1, "WAVE HITTING CEILING SMALL"),
    (0x1d9c2, "WAVE HITTING CEILING LARGE"), (0x1d9d0, "WAVE HITTING FLOOR SMALL"),
    (0x1d9d1, "WAVE HITTING FLOOR LARGE"), (0x1d9dc, "WAVE SNAKE;WAVE SMALL;WAVE LARGE"),
    (0x1d9e2, "SHAKING PARALLEL;;;;;ARM CIRCLE HITTING WALL SMALL SINGLE"),
    (0x1d9e8, "ARM CIRCLE HITTING WALL MEDIUM SINGLE;ARM CIRCLE HITTING WALL LARGE SINGLE"),
    (0x1d9ea, "ARM CIRCLE HITTING WALL SMALL DOUBLE;ARM CIRCLE HITTING WALL MEDIUM DOUBLE"),
    (0x1d9ec, "ARM CIRCLE HITTING WALL LARGE DOUBLE;;;WRIST CIRCLE HITTING WALL SINGLE"),
    (0x1d9f0, "WRIST CIRCLE HITTING WALL DOUBLE;;;FINGER CIRCLES HITTING WALL SINGLE"),
    (0x1d9f4, "FINGER CIRCLES HITTING WALL DOUBLE"), (0x1da69, "JAW")]⟩,
  ⟨"SIGNWRITING TRAVEL-WALLPLANE ", [
    (0x1d94b, "ROTATION-WALLPLANE SINGLE;ROTATION-WALLPLANE DOUBLE"),
    (0x1d94d, "ROTATION-WALLPLANE ALTERNATING;ROTATION-FLOORPLANE SINGLE"),
    (0x1d94f, "ROTATION-FLOORPLANE DOUBLE;ROTATION-FLOORPLANE ALTERNATING;SHAKING"),
    (0x1d952, "ARM SPIRAL SINGLE;ARM SPIRAL DOUBLE;ARM SPIRAL TRIPLE")]⟩,
  ⟨"SIGNWRITING MOVEMENT-DIAGONAL ", [
    (0x1d955, "AWAY SMALL;AWAY MEDIUM;AWAY LARGE;AWAY LARGEST;TOWARDS SMALL;TOWARDS MEDIUM"),
    (0x1d95b, "TOWARDS LARGE;TOWARDS LARGEST")]⟩,
  ⟨"SIGNWRITING MOVEMENT-DIAGONAL BETWEEN ", [
    (0x1d95d, "AWAY SMALL;AWAY MEDIUM;AWAY LARGE;AWAY LARGEST;TOWARDS SMALL;TOWARDS MEDIUM"),
    (0x1d963, "TOWARDS LARGE;TOWARDS LARGEST")]⟩,
  ⟨"SIGNWRITING TRAVEL-FLOORPLANE ", [
    (0x1d981, "ROTATION-FLOORPLANE SINGLE;ROTATION-FLOORPLANE DOUBLE"),
    (0x1d983, "ROTATION-FLOORPLANE ALTERNATING;ROTATION-WALLPLANE SINGLE"),
    (0x1d985, "ROTATION-WALLPLANE DOUBLE;ROTATION-WALLPLANE ALTERNATING;SHAKING")]⟩,
  ⟨"SIGNWRITING MOVEMENT-WALLPLANE CURVE ", [
    (0x1d988, "QUARTER SMALL;QUARTER MEDIUM;QUARTER LARGE;QUARTER LARGEST;HALF-CIRCLE SMALL"),
    (0x1d98d, "HALF-CIRCLE MEDIUM;HALF-CIRCLE LARGE;HALF-CIRCLE LARGEST"),
    (0x1d990, "THREE-QUARTER CIRCLE SMALL;THREE-QUARTER CIRCLE MEDIUM"),
    (0x1d99f, "THEN STRAIGHT;;;;;;;HITTING FRONT WALL;;;;;;;HITTING CHEST")]⟩,
  ⟨"SIGNWRITING MOVEMENT-WALLPLANE WAVE ", [
    (0x1d999, "CURVE DOUBLE SMALL;CURVE DOUBLE MEDIUM;CURVE DOUBLE LARGE;CURVE TRIPLE SMALL"),
    (0x1d99d, "CURVE TRIPLE MEDIUM;CURVE TRIPLE LARGE"), (0x1d9a9, "HITTING FRONT WALL"),
    (0x1d9b0, "HITTING CHEST;;;;DIAGONAL PATH SMALL;DIAGONAL PATH MEDIUM;DIAGONAL PATH LARGE")]⟩,
  ⟨"SIGNWRITING ROTATION-WALLPLANE ", [
    (0x1d9a2, "SINGLE;DOUBLE;ALTERNATE;;;;;;SINGLE HITTING FRONT WALL;DOUBLE HITTING FRONT WALL"),
    (0x1d9ac, "ALTERNATING HITTING FRONT WALL;;;;;SINGLE HITTING CHEST;DOUBLE HITTING CHEST"),
    (0x1d9b3, "ALTERNATING HITTING CHEST")]⟩,
  ⟨"SIGNWRITING MOVEMENT-FLOORPLANE CURVE ", [
    (0x1d9b7, "HITTING CEILING SMALL;HITTING CEILING LARGE"), (0x1d9c6, "HITTING FLOOR SMALL"),
    (0x1d9c7, "HITTING FLOOR LARGE"), (0x1d9d5, "SMALL;MEDIUM;LARGE;LARGEST;COMBINED")]⟩,
  ⟨"SIGNWRITING MOVEMENT-FLOORPLANE HUMP HITTING ", [
    (0x1d9b9, "CEILING SMALL DOUBLE;CEILING LARGE DOUBLE;CEILING SMALL TRIPLE"),
    (0x1d9bc, "CEILING LARGE TRIPLE"), (0x1d9c8, "FLOOR SMALL DOUBLE;FLOOR LARGE DOUBLE"),
    (0x1d9ca, "FLOOR TRIPLE SMALL TRIPLE;FLOOR TRIPLE LARGE TRIPLE")]⟩,
  ⟨"SIGNWRITING MOVEMENT-FLOORPLANE LOOP HITTING ", [
    (0x1d9bd, "CEILING SMALL SINGLE;CEILING LARGE SINGLE;CEILING SMALL DOUBLE"),
    (0x1d9c0, "CEILING LARGE DOUBLE"), (0x1d9cc, "FLOOR SMALL SINGLE;FLOOR LARGE SINGLE"),
    (0x1d9ce, "FLOOR SMALL DOUBLE;FLOOR LARGE DOUBLE")]⟩,
  ⟨"SIGNWRITING ROTATION-FLOORPLANE ", [
    (0x1d9c3, "SINGLE HITTING CEILING;DOUBLE HITTING CEILING;ALTERNATING HITTING CEILING"),
    (0x1d9d2, "SINGLE HITTING FLOOR;DOUBLE HITTING FLOOR;ALTERNATING HITTING FLOOR"),
    (0x1d9df, "SINGLE;DOUBLE;ALTERNATING")]⟩,
  ⟨"SIGNWRITING MOVEMENT-FLOORPLANE HUMP ", [(0x1d9da, "SMALL")]⟩,
  ⟨"SIGNWRITING MOVEMENT-FLOORPLANE LOOP ", [(0x1d9db, "SMALL")]⟩,
  ⟨"SIGNWRITING DYNAMIC ", [
    (0x1d9f5, "ARROWHEAD SMALL;ARROWHEAD LARGE;FAST;SLOW;TENSE;RELAXED;SIMULTANEOUS"),
    (0x1d9fc, "SIMULTANEOUS ALTERNATING;EVERY OTHER TIME;GRADUAL")]⟩,
  ⟨"SIGNWRITING HEAD ", [
    (0x1da00, "RIM;;;MOVEMENT-FLOORPLANE STRAIGHT;;MOVEMENT-FLOORPLANE CURVE;MOVEMENT CIRCLE")]⟩,
  ⟨"SIGNWRITING HEAD MOVEMENT-WALLPLANE ", [(0x1da01, "STRAIGHT;TILT;;CURVE")]⟩,
  ⟨"SIGNWRITING EYES ", [
    (0x1da14, "OPEN;SQUEEZED;CLOSED;;;HALF OPEN;WIDE OPEN;HALF CLOSED;WIDENING MOVEMENT")]⟩,
  ⟨"SIGNWRITING EYEGAZE-WALLPLANE ", [
    (0x1da21, "STRAIGHT;STRAIGHT DOUBLE;STRAIGHT ALTERNATING;;;;CURVED;;CIRCLING")]⟩,
  ⟨"SIGNWRITING EYEGAZE-FLOORPLANE ", [
    (0x1da24, "STRAIGHT;STRAIGHT DOUBLE;STRAIGHT ALTERNATING;;CURVED")]⟩,
  ⟨"SIGNWRITING MOUTH ", [
    (0x1da3b, "CLOSED NEUTRAL;CLOSED FORWARD;CLOSED CONTACT;SMILE;SMILE WRINKLED;SMILE OPEN"),
    (0x1da41, "FROWN;FROWN WRINKLED;FROWN OPEN"), (0x1da4d, "KISS;KISS FORWARD;KISS WRINKLED"),
    (0x1da50, "TENSE;TENSE FORWARD;TENSE SUCKED;;;;CORNERS;WRINKLES SINGLE;WRINKLES DOUBLE")]⟩,
  ⟨"SIGNWRITING MOUTH OPEN ", [
    (0x1da44, "CIRCLE;FORWARD;WRINKLED;OVAL;OVAL WRINKLED;OVAL YAWN;RECTANGLE"),
    (0x1da4b, "RECTANGLE WRINKLED;RECTANGLE YAWN")]⟩,
  ⟨"SIGNWRITING TONGUE ", [
    (0x1da59, "STICKING OUT FAR;LICKING LIPS;TIP BETWEEN LIPS;TIP TOUCHING INSIDE MOUTH"),
    (0x1da5d, "INSIDE MOUTH RELAXED;MOVES AGAINST CHEEK;CENTRE STICKING OUT;CENTRE INSIDE MOUTH")]⟩,
  ⟨"SIGNWRITING TEETH ", [
    (0x1da62, "MOVEMENT;ON TONGUE;ON TONGUE MOVEMENT;ON LIPS;ON LIPS MOVEMENT;BITE LIPS")]⟩,
  ⟨"SIGNWRITING LIMB ", [
    (0x1da76, "COMBINATION;LENGTH-1;LENGTH-2;LENGTH-3;LENGTH-4;LENGTH-5;LENGTH-6;LENGTH-7")]⟩,
  ⟨"SIGNWRITING LOCATION ", [(0x1da81, "HEIGHT;WIDTH;DEPTH;HEAD NECK;TORSO;LIMBS DIGITS")]⟩,
  ⟨"SIGNWRITING ROTATION ", [
    (0x1daa1, "MODIFIER-2;MODIFIER-3;MODIFIER-4;MODIFIER-5;MODIFIER-6;MODIFIER-7;MODIFIER-8"),
    (0x1daa8, "MODIFIER-9;MODIFIER-10;MODIFIER-11;MODIFIER-12;MODIFIER-13;MODIFIER-14"),
    (0x1daae, "MODIFIER-15;MODIFIER-16")]⟩,
  ⟨"LATIN SMALL LETTER ", [
    (0x1df00, "FENG DIGRAPH WITH TRILL;REVERSED SCRIPT G;;REVERSED K;;LEZH WITH RETROFLEX HOOK"),
    (0x1df06, "TURNED Y WITH BELT;REVERSED ENG;TURNED R WITH LONG LEG AND RETROFLEX HOOK"),
    (0x1df09, "T WITH HOOK AND RETROFLEX HOOK;;ESH WITH DOUBLE BAR;ESH WITH DOUBLE BAR AND CURL"),
    (0x1df0d, "TURNED T WITH CURL;;;;L WITH FISHHOOK;DEZH DIGRAPH WITH PALATAL HOOK"),
    (0x1df13, "L WITH BELT AND PALATAL HOOK;ENG WITH PALATAL HOOK;TURNED R WITH PALATAL HOOK"),
    (0x1df16, "R WITH FISHHOOK AND PALATAL HOOK;TESH DIGRAPH WITH PALATAL HOOK"),
    (0x1df18, "EZH WITH PALATAL HOOK;DEZH DIGRAPH WITH RETROFLEX HOOK"),
    (0x1df1a, "I WITH STROKE AND RETROFLEX HOOK;O WITH RETROFLEX HOOK"),
    (0x1df1c, "TESH DIGRAPH WITH RETROFLEX HOOK;C WITH RETROFLEX HOOK;S WITH CURL")]⟩,
  ⟨"LATIN LETTER ", [
    (0x1df02, "SMALL CAPITAL TURNED G;;SMALL CAPITAL L WITH BELT"),
    (0x1df0a, "RETROFLEX CLICK WITH RETROFLEX HOOK;;;;INVERTED GLOTTAL STOP WITH CURL"),
    (0x1df0f, "STRETCHED C WITH CURL;SMALL CAPITAL TURNED K")]⟩,
  ⟨"COMBINING GLAGOLITIC LETTER ", [
    (0x1e000, "AZU;BUKY;VEDE;GLAGOLI;DOBRO;YESTU;ZHIVETE;;ZEMLJA;IZHE;INITIAL IZHE;I;DJERVI"),
    (0x1e00d, "KAKO;LJUDIJE;MYSLITE;NASHI;ONU;POKOJI;RITSI;SLOVO;TVRIDO;UKU;FRITU;HERU;;;SHTA"),
    (0x1e01c, "TSI;CHRIVI;SHA;YERU;YERI;YATI;;YU;SMALL YUS;;YO;IOTATED SMALL YUS;BIG YUS"),
    (0x1e029, "IOTATED BIG YUS;FITA")]⟩,
  ⟨"NYIAKENG PUACHUE HMONG LETTER ", [
    (0x1e100, "MA;TSA;NTA;TA;HA;NA;XA;NKA;CA;LA;SA;ZA;NCA;NTSA;KA;DA;NYA;NRA;VA;NTXA;TXA;FA;RA"),
    (0x1e117, "QA;YA;NQA;PA;XYA;NPA;DLA;NPLA;HAH;MLA;PLA;GA;RRA;A;AA;I;U;O;OO;E;EE;W")]⟩,
  ⟨"NYIAKENG PUACHUE HMONG ", [
    (0x1e130, "TONE-B;TONE-M;TONE-J;TONE-V;TONE-S;TONE-G;TONE-D;SIGN FOR PERSON;SIGN FOR THING"),
    (0x1e139, "SIGN FOR LOCATION;SIGN FOR ANIMAL;SIGN FOR INVERTEBRATE;SIGN XW XW"),
    (0x1e13d, "SYLLABLE LENGTHENER"), (0x1e14e, "LOGOGRAM NYAJ;CIRCLED CA")]⟩,
  ⟨"NYIAKENG PUACHUE HMONG DIGIT ", [
    (0x1e140, "ZERO;ONE;TWO;THREE;FOUR;FIVE;SIX;SEVEN;EIGHT;NINE")]⟩,
  ⟨"TOTO LETTER ", [
    (0x1e290, "PA;BA;TA;DA;KA;GA;MA;NA;NGA;SA;CHA;YA;WA;JA;HA;RA;LA;I;;IU;;U;E;;EO;;O;AE;;A")]⟩,
  ⟨"TOTO LETTER BREATHY ", [(0x1e2a2, "I;;IU;;;E;;EO;;;AE")]⟩,
  ⟨"TOTO ", [(0x1e2ae, "SIGN RISING TONE")]⟩,
  ⟨"WANCHO LETTER ", [
    (0x1e2c0, "AA;A;BA;CA;DA;GA;YA;PHA;LA;NA;PA;TA;THA;FA;SA;SHA;JA;ZA;WA;VA;KA;O;AU;RA;MA;KHA"),
    (0x1e2da, "HA;E;I;NGA;U;LLHA;TSA;TRA;ONG;AANG;ANG;ING;ON;EN;AAN;NYA;UEN;YIH")]⟩,
  ⟨"WANCHO ", [(0x1e2ec, "TONE TUP;TONE TUPNI;TONE KOI;TONE KOINI"), (0x1e2ff, "NGUN SIGN")]⟩,
  ⟨"WANCHO DIGIT ", [(0x1e2f0, "ZERO;ONE;TWO;THREE;FOUR;FIVE;SIX;SEVEN;EIGHT;NINE")]⟩,
  ⟨"ETHIOPIC SYLLABLE ", [(0x1e7e0, "HHYA;HHYU;HHYI;HHYAA;HHYEE;HHYE;HHYO;;;HHWI;HHWEE;HHWE")]⟩,
  ⟨"ETHIOPIC SYLLABLE GURAGE ", [
    (0x1e7e8, "HHWA;;;;;MWI;MWEE;;QWI;QWEE;QWE;BWI;BWEE;KWI;KWEE;KWE;GWI;GWEE;GWE;FWI;FWEE;PWI"),
    (0x1e7fe, "PWEE")]⟩,
  ⟨"MENDE KIKAKUI SYLLABLE ", [
    (0x1e800, "M001 KI;M002 KA;M003 KU;M065 KEE;M095 KE;M076 KOO;M048 KO;M179 KUA;M004 WI"),
    (0x1e809, "M005 WA;M006 WU;M126 WEE;M118 WE;M114 WOO;M045 WO;M194 WUI;M143 WEI;M061 WVI"),
    (0x1e812, "M049 WVA;M139 WVE;M007 MIN;M008 MAN;M009 MUN;M059 MEN;M094 MON;M154 MUAN"),
    (0x1e81a, "M189 MUEN;M010 BI;M011 BA;M012 BU;M150 BEE;M097 BE;M103 BOO;M138 BO;M013 I"),
    (0x1e823, "M014 A;M015 U;M163 EE;M100 E;M165 OO;M147 O;M137 EI;M131 IN;M135 IN;M195 AN"),
    (0x1e82d, "M178 EN;M019 SI;M020 SA;M021 SU;M162 SEE;M116 SE;M136 SOO;M079 SO;M196 SIA"),
    (0x1e836, "M025 LI;M026 LA;M027 LU;M084 LEE;M073 LE;M054 LOO;M153 LO;M110 LONG LE;M016 DI"),
    (0x1e83f, "M017 DA;M018 DU;M089 DEE;M180 DOO;M181 DO;M022 TI;M023 TA;M024 TU;M091 TEE"),
    (0x1e848, "M055 TE;M104 TOO;M069 TO;M028 JI;M029 JA;M030 JU;M157 JEE;M113 JE;M160 JOO"),
    (0x1e851, "M063 JO;M175 LONG JO;M031 YI;M032 YA;M033 YU;M109 YEE;M080 YE;M141 YOO;M121 YO"),
    (0x1e85a, "M034 FI;M035 FA;M036 FU;M078 FEE;M075 FE;M133 FOO;M088 FO;M197 FUA;M101 FAN"),
    (0x1e863, "M037 NIN;M038 NAN;M039 NUN;M117 NEN;M169 NON;M176 HI;M041 HA;M186 HU;M040 HEE"),
    (0x1e86c, "M096 HE;M042 HOO;M140 HO;M083 HEEI;M128 HOOU;M053 HIN;M130 HAN;M087 HUN;M052 HEN"),
    (0x1e875, "M193 HON;M046 HUAN;M090 NGGI;M043 NGGA;M082 NGGU;M115 NGGEE;M146 NGGE;M156 NGGOO"),
    (0x1e87d, "M120 NGGO;M159 NGGAA;M127 NGGUA;M086 LONG NGGE;M106 LONG NGGOO;M183 LONG NGGO"),
    (0x1e883, "M155 GI;M111 GA;M168 GU;M190 GEE;M166 GUEI;M167 GUAN;M184 NGEN;M057 NGON"),
    (0x1e88b, "M177 NGUAN;M068 PI;M099 PA;M050 PU;M081 PEE;M051 PE;M102 POO;M066 PO;M145 MBI"),
    (0x1e894, "M062 MBA;M122 MBU;M047 MBEE;M188 MBEE;M072 MBE;M172 MBOO;M174 MBO;M187 MBUU"),
    (0x1e89c, "M161 LONG MBE;M105 LONG MBOO;M142 LONG MBO;M132 KPI;M092 KPA;M074 KPU;M044 KPEE"),
    (0x1e8a3, "M108 KPE;M112 KPOO;M158 KPO;M124 GBI;M056 GBA;M148 GBU;M093 GBEE;M107 GBE"),
    (0x1e8ab, "M071 GBOO;M070 GBO;M171 RA;M123 NDI;M129 NDA;M125 NDU;M191 NDEE;M119 NDE"),
    (0x1e8b3, "M067 NDOO;M064 NDO;M152 NJA;M192 NJU;M149 NJEE;M134 NJOO;M182 VI;M185 VA;M151 VU"),
    (0x1e8bc, "M173 VEE;M085 VE;M144 VOO;M077 VO;M164 NYIN;M058 NYAN;M170 NYUN;M098 NYEN"),
    (0x1e8c4, "M060 NYON")]⟩,
  ⟨"MENDE KIKAKUI DIGIT ", [(0x1e8c7, "ONE;TWO;THREE;FOUR;FIVE;SIX;SEVEN;EIGHT;NINE")]⟩,
  ⟨"MENDE KIKAKUI COMBINING NUMBER ", [
    (0x1e8d0, "TEENS;TENS;HUNDREDS;THOUSANDS;TEN THOUSANDS;HUNDRED THOUSANDS;MILLIONS")]⟩,
  ⟨"ADLAM CAPITAL LETTER ", [
    (0x1e900, "ALIF;DAALI;LAAM;MIIM;BA;SINNYIIYHE;PE;BHE;RA;E;FA;I;O;DHA;YHE;WAW;NUN;KAF;YA;U"),
    (0x1e914, "JIIM;CHI;HA;QAAF;GA;NYA;TU;NHA;VA;KHA;GBE;ZAL;KPO;SHA")]⟩,
  ⟨"ADLAM SMALL LETTER ", [
    (0x1e922, "ALIF;DAALI;LAAM;MIIM;BA;SINNYIIYHE;PE;BHE;RA;E;FA;I;O;DHA;YHE;WAW;NUN;KAF;YA;U"),
    (0x1e936, "JIIM;CHI;HA;QAAF;GA;NYA;TU;NHA;VA;KHA;GBE;ZAL;KPO;SHA")]⟩,
  ⟨"ADLAM ", [
    (0x1e944, "ALIF LENGTHENER;VOWEL LENGTHENER;GEMINATION MARK;HAMZA;CONSONANT MODIFIER"),
    (0x1e949, "GEMINATE CONSONANT MODIFIER;NUKTA;NASALIZATION MARK"),
    (0x1e95e, "INITIAL EXCLAMATION MARK;INITIAL QUESTION MARK")]⟩,
  ⟨"ADLAM DIGIT ", [(0x1e950, "ZERO;ONE;TWO;THREE;FOUR;FIVE;SIX;SEVEN;EIGHT;NINE")]⟩,
  ⟨"INDIC SIYAQ NUMBER ", [
    (0x1ec71, "ONE;TWO;THREE;FOUR;FIVE;SIX;SEVEN;EIGHT;NINE;TEN;TWENTY;THIRTY;FORTY;FIFTY;SIXTY"),
    (0x1ec80, "SEVENTY;EIGHTY;NINETY;ONE HUNDRED;TWO HUNDRED;THREE HUNDRED;FOUR HUNDRED"),
    (0x1ec87, "FIVE HUNDRED;SIX HUNDRED;SEVEN HUNDRED;EIGHT HUNDRED;NINE HUNDRED;ONE THOUSAND"),
    (0x1ec8d, "TWO THOUSAND;THREE THOUSAND;FOUR THOUSAND;FIVE THOUSAND;SIX THOUSAND"),
    (0x1ec92, "SEVEN THOUSAND;EIGHT THOUSAND;NINE THOUSAND;TEN THOUSAND;TWENTY THOUSAND"),
    (0x1ec97, "THIRTY THOUSAND;FORTY THOUSAND;FIFTY THOUSAND;SIXTY THOUSAND;SEVENTY THOUSAND"),
    (0x1ec9c, "EIGHTY THOUSAND;NINETY THOUSAND;LAKH;LAKHAN;;KAROR;KARORAN"),
    (0x1ecb1, "ALTERNATE ONE;ALTERNATE TWO;ALTERNATE TEN THOUSAND")]⟩,
  ⟨"INDIC SIYAQ ", [
    (0x1eca0, "LAKH MARK"), (0x1ecac, "PLACEHOLDER;FRACTION ONE QUARTER;FRACTION ONE HALF"),
    (0x1ecaf, "FRACTION THREE QUARTERS;RUPEE MARK;;;;ALTERNATE LAKH MARK")]⟩,
  ⟨"INDIC SIYAQ NUMBER PREFIXED ", [(0x1eca3, "ONE;TWO;THREE;FOUR;FIVE;SIX;SEVEN;EIGHT;NINE")]⟩,
  ⟨"OTTOMAN SIYAQ NUMBER ", [
    (0x1ed01, "ONE;TWO;THREE;FOUR;FIVE;SIX;SEVEN;EIGHT;NINE;TEN;TWENTY;THIRTY;FORTY;FIFTY;SIXTY"),
    (0x1ed10, "SEVENTY;EIGHTY;NINETY;ONE HUNDRED;TWO HUNDRED;THREE HUNDRED;FOUR HUNDRED"),
    (0x1ed17, "FIVE HUNDRED;SIX HUNDRED;SEVEN HUNDRED;EIGHT HUNDRED;NINE HUNDRED;ONE THOUSAND"),
    (0x1ed1d, "TWO THOUSAND;THREE THOUSAND;FOUR THOUSAND;FIVE THOUSAND;SIX THOUSAND"),
    (0x1ed22, "SEVEN THOUSAND;EIGHT THOUSAND;NINE THOUSAND;TEN THOUSAND;TWENTY THOUSAND"),
    (0x1ed27, "THIRTY THOUSAND;FORTY THOUSAND;FIFTY THOUSAND;SIXTY THOUSAND;SEVENTY THOUSAND"),
    (0x1ed2c, "EIGHTY THOUSAND;NINETY THOUSAND")]⟩,
  ⟨"OTTOMAN SIYAQ ", [(0x1ed2e, "MARRATAN"), (0x1ed3c, "FRACTION ONE HALF;FRACTION ONE SIXTH")]⟩,
  ⟨"OTTOMAN SIYAQ ALTERNATE NUMBER ", [
    (0x1ed2f, "TWO;THREE;FOUR;FIVE;SIX;SEVEN;EIGHT;NINE;TEN;FOUR HUNDRED;SIX HUNDRED"),
    (0x1ed3a, "TWO THOUSAND;TEN THOUSAND")]⟩,
  ⟨"ARABIC MATHEMATICAL ", [
    (0x1ee00, "ALEF;BEH;JEEM;DAL;;WAW;ZAIN;HAH;TAH;YEH;KAF;LAM;MEEM;NOON;SEEN;AIN;FEH;SAD;QAF"),
    (0x1ee13, "REH;SHEEN;TEH;THEH;KHAH;THAL;DAD;ZAH;GHAIN;DOTLESS BEH;DOTLESS NOON;DOTLESS FEH"),
    (0x1ee1f, "DOTLESS QAF"), (0x1eef0, "OPERATOR MEEM WITH HAH WITH TATWEEL"),
    (0x1eef1, "OPERATOR HAH WITH DAL")]⟩,
  ⟨"ARABIC MATHEMATICAL INITIAL ", [
    (0x1ee21, "BEH;JEEM;;HEH;;;HAH;;YEH;KAF;LAM;MEEM;NOON;SEEN;AIN;FEH;SAD;QAF;;SHEEN;TEH;THEH"),
    (0x1ee37, "KHAH;;DAD;;GHAIN")]⟩,
  ⟨"ARABIC MATHEMATICAL TAILED ", [
    (0x1ee42, "JEEM;;;;;HAH;;YEH;;LAM;;NOON;SEEN;AIN;;SAD;QAF;;SHEEN;;;KHAH;;DAD;;GHAIN"),
    (0x1ee5d, "DOTLESS NOON;;DOTLESS QAF")]⟩,
  ⟨"ARABIC MATHEMATICAL STRETCHED ", [
    (0x1ee61, "BEH;JEEM;;HEH;;;HAH;TAH;YEH;KAF;;MEEM;NOON;SEEN;AIN;FEH;SAD;QAF;;SHEEN;TEH;THEH"),
    (0x1ee77, "KHAH;;DAD;ZAH;GHAIN;DOTLESS BEH;;DOTLESS FEH")]⟩,
  ⟨"ARABIC MATHEMATICAL LOOPED ", [
    (0x1ee80, "ALEF;BEH;JEEM;DAL;HEH;WAW;ZAIN;HAH;TAH;YEH;;LAM;MEEM;NOON;SEEN;AIN;FEH;SAD;QAF"),
    (0x1ee93, "REH;SHEEN;TEH;THEH;KHAH;THAL;DAD;ZAH;GHAIN")]⟩,
  ⟨"ARABIC MATHEMATICAL DOUBLE-STRUCK ", [
    (0x1eea1, "BEH;JEEM;DAL;;WAW;ZAIN;HAH;TAH;YEH;;LAM;MEEM;NOON;SEEN;AIN;FEH;SAD;QAF;REH;SHEEN"),
    (0x1eeb5, "TEH;THEH;KHAH;THAL;DAD;ZAH;GHAIN")]⟩]

end ReceiptRules.Text.CharacterName
