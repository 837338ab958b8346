import ReceiptRules.Text.CharacterName.Naming

/-!
# Names of pictures

The characters from 0x1f000 on: tiles, cards, enclosed letters, pictures and tags.
-/

namespace ReceiptRules.Text.CharacterName

def pictures : List Family := [
  ⟨"MAHJONG TILE ", [
    (0x1f000, "EAST WIND;SOUTH WIND;WEST WIND;NORTH WIND;RED DRAGON;GREEN DRAGON;WHITE DRAGON"),
    (0x1f007, "ONE OF CHARACTERS;TWO OF CHARACTERS;THREE OF CHARACTERS;FOUR OF CHARACTERS"),
    (0x1f00b, "FIVE OF CHARACTERS;SIX OF CHARACTERS;SEVEN OF CHARACTERS;EIGHT OF CHARACTERS"),
    (0x1f00f, "NINE OF CHARACTERS;ONE OF BAMBOOS;TWO OF BAMBOOS;THREE OF BAMBOOS"),
    (0x1f013, "FOUR OF BAMBOOS;FIVE OF BAMBOOS;SIX OF BAMBOOS;SEVEN OF BAMBOOS;EIGHT OF BAMBOOS"),
    (0x1f018, "NINE OF BAMBOOS;ONE OF CIRCLES;TWO OF CIRCLES;THREE OF CIRCLES;FOUR OF CIRCLES"),
    (0x1f01d, "FIVE OF CIRCLES;SIX OF CIRCLES;SEVEN OF CIRCLES;EIGHT OF CIRCLES;NINE OF CIRCLES"),
    (0x1f022, "PLUM;ORCHID;BAMBOO;CHRYSANTHEMUM;SPRING;SUMMER;AUTUMN;WINTER;JOKER;BACK")]⟩,
  ⟨"DOMINO TILE ", [
    (0x1f030, "HORIZONTAL BACK;HORIZONTAL-00-00;HORIZONTAL-00-01;HORIZONTAL-00-02"),
    (0x1f034, "HORIZONTAL-00-03;HORIZONTAL-00-04;HORIZONTAL-00-05;HORIZONTAL-00-06"),
    (0x1f038, "HORIZONTAL-01-00;HORIZONTAL-01-01;HORIZONTAL-01-02;HORIZONTAL-01-03"),
    (0x1f03c, "HORIZONTAL-01-04;HORIZONTAL-01-05;HORIZONTAL-01-06;HORIZONTAL-02-00"),
    (0x1f040, "HORIZONTAL-02-01;HORIZONTAL-02-02;HORIZONTAL-02-03;HORIZONTAL-02-04"),
    (0x1f044, "HORIZONTAL-02-05;HORIZONTAL-02-06;HORIZONTAL-03-00;HORIZONTAL-03-01"),
    (0x1f048, "HORIZONTAL-03-02;HORIZONTAL-03-03;HORIZONTAL-03-04;HORIZONTAL-03-05"),
    (0x1f04c, "HORIZONTAL-03-06;HORIZONTAL-04-00;HORIZONTAL-04-01;HORIZONTAL-04-02"),
    (0x1f050, "HORIZONTAL-04-03;HORIZONTAL-04-04;HORIZONTAL-04-05;HORIZONTAL-04-06"),
    (0x1f054, "HORIZONTAL-05-00;HORIZONTAL-05-01;HORIZONTAL-05-02;HORIZONTAL-05-03"),
    (0x1f058, "HORIZONTAL-05-04;HORIZONTAL-05-05;HORIZONTAL-05-06;HORIZONTAL-06-00"),
    (0x1f05c, "HORIZONTAL-06-01;HORIZONTAL-06-02;HORIZONTAL-06-03;HORIZONTAL-06-04"),
    (0x1f060, "HORIZONTAL-06-05;HORIZONTAL-06-06;VERTICAL BACK;VERTICAL-00-00;VERTICAL-00-01"),
    (0x1f065, "VERTICAL-00-02;VERTICAL-00-03;VERTICAL-00-04;VERTICAL-00-05;VERTICAL-00-06"),
    (0x1f06a, "VERTICAL-01-00;VERTICAL-01-01;VERTICAL-01-02;VERTICAL-01-03;VERTICAL-01-04"),
    (0x1f06f, "VERTICAL-01-05;VERTICAL-01-06;VERTICAL-02-00;VERTICAL-02-01;VERTICAL-02-02"),
    (0x1f074, "VERTICAL-02-03;VERTICAL-02-04;VERTICAL-02-05;VERTICAL-02-06;VERTICAL-03-00"),
    (0x1f079, "VERTICAL-03-01;VERTICAL-03-02;VERTICAL-03-03;VERTICAL-03-04;VERTICAL-03-05"),
    (0x1f07e, "VERTICAL-03-06;VERTICAL-04-00;VERTICAL-04-01;VERTICAL-04-02;VERTICAL-04-03"),
    (0x1f083, "VERTICAL-04-04;VERTICAL-04-05;VERTICAL-04-06;VERTICAL-05-00;VERTICAL-05-01"),
    (0x1f088, "VERTICAL-05-02;VERTICAL-05-03;VERTICAL-05-04;VERTICAL-05-05;VERTICAL-05-06"),
    (0x1f08d, "VERTICAL-06-00;VERTICAL-06-01;VERTICAL-06-02;VERTICAL-06-03;VERTICAL-06-04"),
    (0x1f092, "VERTICAL-06-05;VERTICAL-06-06")]⟩,
  ⟨"PLAYING CARD ", [
    (0x1f0a0, "BACK;ACE OF SPADES;TWO OF SPADES;THREE OF SPADES;FOUR OF SPADES;FIVE OF SPADES"),
    (0x1f0a6, "SIX OF SPADES;SEVEN OF SPADES;EIGHT OF SPADES;NINE OF SPADES;TEN OF SPADES"),
    (0x1f0ab, "JACK OF SPADES;KNIGHT OF SPADES;QUEEN OF SPADES;KING OF SPADES;;;ACE OF HEARTS"),
    (0x1f0b2, "TWO OF HEARTS;THREE OF HEARTS;FOUR OF HEARTS;FIVE OF HEARTS;SIX OF HEARTS"),
    (0x1f0b7, "SEVEN OF HEARTS;EIGHT OF HEARTS;NINE OF HEARTS;TEN OF HEARTS;JACK OF HEARTS"),
    (0x1f0bc, "KNIGHT OF HEARTS;QUEEN OF HEARTS;KING OF HEARTS;RED JOKER;;ACE OF DIAMONDS"),
    (0x1f0c2, "TWO OF DIAMONDS;THREE OF DIAMONDS;FOUR OF DIAMONDS;FIVE OF DIAMONDS"),
    (0x1f0c6, "SIX OF DIAMONDS;SEVEN OF DIAMONDS;EIGHT OF DIAMONDS;NINE OF DIAMONDS"),
    (0x1f0ca, "TEN OF DIAMONDS;JACK OF DIAMONDS;KNIGHT OF DIAMONDS;QUEEN OF DIAMONDS"),
    (0x1f0ce, "KING OF DIAMONDS;BLACK JOKER;;ACE OF CLUBS;TWO OF CLUBS;THREE OF CLUBS"),
    (0x1f0d4, "FOUR OF CLUBS;FIVE OF CLUBS;SIX OF CLUBS;SEVEN OF CLUBS;EIGHT OF CLUBS"),
    (0x1f0d9, "NINE OF CLUBS;TEN OF CLUBS;JACK OF CLUBS;KNIGHT OF CLUBS;QUEEN OF CLUBS"),
    (0x1f0de, "KING OF CLUBS;WHITE JOKER;FOOL;TRUMP-1;TRUMP-2;TRUMP-3;TRUMP-4;TRUMP-5;TRUMP-6"),
    (0x1f0e7, "TRUMP-7;TRUMP-8;TRUMP-9;TRUMP-10;TRUMP-11;TRUMP-12;TRUMP-13;TRUMP-14;TRUMP-15"),
    (0x1f0f0, "TRUMP-16;TRUMP-17;TRUMP-18;TRUMP-19;TRUMP-20;TRUMP-21")]⟩,
  ⟨"DIGIT ", [
    (0x1f100, "ZERO FULL STOP;ZERO COMMA;ONE COMMA;TWO COMMA;THREE COMMA;FOUR COMMA;FIVE COMMA"),
    (0x1f107, "SIX COMMA;SEVEN COMMA;EIGHT COMMA;NINE COMMA")]⟩,
  ⟨"", [
    (0x1f10b, "DINGBAT CIRCLED SANS-SERIF DIGIT ZERO"),
    (0x1f10c, "DINGBAT NEGATIVE CIRCLED SANS-SERIF DIGIT ZERO"), (0x1f12f, "COPYLEFT SYMBOL"),
    (0x1f18a, "CROSSED NEGATIVE SQUARED LATIN CAPITAL LETTER P"), (0x1f1ad, "MASK WORK SYMBOL"),
    (0x1f300, "CYCLONE;FOGGY;;NIGHT WITH STARS;SUNRISE OVER MOUNTAINS;SUNRISE;CITYSCAPE AT DUSK"),
    (0x1f307, "SUNSET OVER BUILDINGS;RAINBOW;BRIDGE AT NIGHT;;VOLCANO;MILKY WAY"),
    (0x1f310, "GLOBE WITH MERIDIANS;NEW MOON SYMBOL;WAXING CRESCENT MOON SYMBOL"),
    (0x1f314, "WAXING GIBBOUS MOON SYMBOL;FULL MOON SYMBOL;WANING GIBBOUS MOON SYMBOL"),
    (0x1f317, "LAST QUARTER MOON SYMBOL;WANING CRESCENT MOON SYMBOL;CRESCENT MOON"),
    (0x1f31a, "NEW MOON WITH FACE;;LAST QUARTER MOON WITH FACE;FULL MOON WITH FACE"),
    (0x1f31e, "SUN WITH FACE;GLOWING STAR;SHOOTING STAR;THERMOMETER"), (0x1f32b, "FOG"),
    (0x1f32c, "WIND BLOWING FACE;HOT DOG;TACO;BURRITO;CHESTNUT;SEEDLING;EVERGREEN TREE"),
    (0x1f333, "DECIDUOUS TREE;PALM TREE;CACTUS;HOT PEPPER;TULIP;CHERRY BLOSSOM;ROSE;HIBISCUS"),
    (0x1f33b, "SUNFLOWER;BLOSSOM;EAR OF MAIZE;EAR OF RICE;HERB;FOUR LEAF CLOVER;MAPLE LEAF"),
    (0x1f342, "FALLEN LEAF;LEAF FLUTTERING IN WIND;MUSHROOM;TOMATO;AUBERGINE;GRAPES;MELON"),
    (0x1f349, "WATERMELON;TANGERINE;LEMON;BANANA;PINEAPPLE;RED APPLE;;PEAR;PEACH;CHERRIES"),
    (0x1f353, "STRAWBERRY;HAMBURGER;SLICE OF PIZZA;MEAT ON BONE;POULTRY LEG;RICE CRACKER"),
    (0x1f359, "RICE BALL;COOKED RICE;CURRY AND RICE;STEAMING BOWL;SPAGHETTI;BREAD;FRENCH FRIES"),
    (0x1f360, "ROASTED SWEET POTATO;DANGO;ODEN;SUSHI;FRIED SHRIMP;FISH CAKE WITH SWIRL DESIGN"),
    (0x1f366, "SOFT ICE CREAM;SHAVED ICE;ICE CREAM;DOUGHNUT;COOKIE;CHOCOLATE BAR;CANDY;LOLLIPOP"),
    (0x1f36e, "CUSTARD;HONEY POT;SHORTCAKE;BENTO BOX;POT OF FOOD;COOKING;FORK AND KNIFE"),
    (0x1f375, "TEACUP WITHOUT HANDLE;SAKE BOTTLE AND CUP;WINE GLASS;COCKTAIL GLASS"),
    (0x1f379, "TROPICAL DRINK;BEER MUG;CLINKING BEER MUGS;;FORK AND KNIFE WITH PLATE"),
    (0x1f37e, "BOTTLE WITH POPPING CORK;POPCORN;RIBBON;WRAPPED PRESENT;BIRTHDAY CAKE"),
    (0x1f383, "JACK-O-LANTERN;CHRISTMAS TREE;FATHER CHRISTMAS;FIREWORKS;FIREWORK SPARKLER"),
    (0x1f388, "BALLOON;PARTY POPPER;CONFETTI BALL;TANABATA TREE;CROSSED FLAGS;PINE DECORATION"),
    (0x1f38f, "CARP STREAMER;WIND CHIME;MOON VIEWING CEREMONY;SCHOOL SATCHEL;GRADUATION CAP"),
    (0x1f395, "BOUQUET OF FLOWERS;MILITARY MEDAL;REMINDER RIBBON;;STUDIO MICROPHONE"),
    (0x1f39a, "LEVEL SLIDER;CONTROL KNOBS;BEAMED ASCENDING MUSICAL NOTES"),
    (0x1f39d, "BEAMED DESCENDING MUSICAL NOTES;FILM FRAMES;ADMISSION TICKETS;CAROUSEL HORSE"),
    (0x1f3a1, "FERRIS WHEEL;ROLLER COASTER;FISHING POLE AND FISH;MICROPHONE;MOVIE CAMERA;CINEMA"),
    (0x1f3a7, "HEADPHONE;ARTIST PALETTE;TOP HAT;CIRCUS TENT;TICKET;CLAPPER BOARD"),
    (0x1f3ad, "PERFORMING ARTS;VIDEO GAME;DIRECT HIT;SLOT MACHINE;BILLIARDS;GAME DIE;BOWLING"),
    (0x1f3b4, "FLOWER PLAYING CARDS;;MULTIPLE MUSICAL NOTES;SAXOPHONE;GUITAR;;TRUMPET;VIOLIN"),
    (0x1f3bd, "RUNNING SHIRT WITH SASH;TENNIS RACQUET AND BALL;SKI AND SKI BOOT"),
    (0x1f3c0, "BASKETBALL AND HOOP;CHEQUERED FLAG;SNOWBOARDER;RUNNER;SURFER;SPORTS MEDAL;TROPHY"),
    (0x1f3c7, "HORSE RACING;AMERICAN FOOTBALL;RUGBY FOOTBALL;SWIMMER;WEIGHT LIFTER;GOLFER"),
    (0x1f3cd, "RACING MOTORCYCLE;RACING CAR;CRICKET BAT AND BALL;VOLLEYBALL"),
    (0x1f3d1, "FIELD HOCKEY STICK AND BALL;ICE HOCKEY STICK AND PUCK"),
    (0x1f3d3, "TABLE TENNIS PADDLE AND BALL;SNOW CAPPED MOUNTAIN;CAMPING;BEACH WITH UMBRELLA"),
    (0x1f3d7, "BUILDING CONSTRUCTION;;CITYSCAPE;DERELICT HOUSE BUILDING;CLASSICAL BUILDING"),
    (0x1f3dc, "DESERT;DESERT ISLAND;NATIONAL PARK;STADIUM;;;OFFICE BUILDING"),
    (0x1f3e4, "EUROPEAN POST OFFICE;HOSPITAL;BANK;AUTOMATED TELLER MACHINE;HOTEL;LOVE HOTEL"),
    (0x1f3ea, "CONVENIENCE STORE;SCHOOL;DEPARTMENT STORE;FACTORY;IZAKAYA LANTERN"),
    (0x1f3f0, "EUROPEAN CASTLE;;;;;ROSETTE;;LABEL;BADMINTON RACQUET AND SHUTTLECOCK"),
    (0x1f3f9, "BOW AND ARROW;AMPHORA;;;;;;RAT;MOUSE;OX;;COW;TIGER;LEOPARD;RABBIT;CAT;DRAGON"),
    (0x1f40a, "CROCODILE;WHALE;SNAIL;SNAKE;HORSE;RAM;GOAT;SHEEP;MONKEY;ROOSTER;CHICKEN;DOG;PIG"),
    (0x1f417, "BOAR;ELEPHANT;OCTOPUS;;BUG;ANT;HONEYBEE;LADY BEETLE;FISH;TROPICAL FISH;BLOWFISH"),
    (0x1f422, "TURTLE;HATCHING CHICK;;FRONT-FACING BABY CHICK;BIRD;PENGUIN;KOALA;POODLE"),
    (0x1f42a, "DROMEDARY CAMEL;BACTRIAN CAMEL;DOLPHIN;MOUSE FACE;COW FACE;TIGER FACE"),
    (0x1f430, "RABBIT FACE;CAT FACE;DRAGON FACE;SPOUTING WHALE;HORSE FACE;MONKEY FACE;DOG FACE"),
    (0x1f437, "PIG FACE;FROG FACE;HAMSTER FACE;WOLF FACE;BEAR FACE;PANDA FACE;PIG NOSE"),
    (0x1f43e, "PAW PRINTS;CHIPMUNK;EYES;EYE;EAR;NOSE;MOUTH;TONGUE;;;;;FISTED HAND SIGN"),
    (0x1f44c, "OK HAND SIGN;THUMBS UP SIGN;THUMBS DOWN SIGN;CLAPPING HANDS SIGN;;CROWN"),
    (0x1f453, "EYEGLASSES;NECKTIE;T-SHIRT;JEANS;DRESS;KIMONO;BIKINI;;PURSE;HANDBAG;POUCH"),
    (0x1f45e, "MANS SHOE;ATHLETIC SHOE;HIGH-HEELED SHOE;;;FOOTPRINTS;BUST IN SILHOUETTE"),
    (0x1f465, "BUSTS IN SILHOUETTE;BOY;GIRL;MAN;WOMAN;FAMILY;;;;;WOMAN WITH BUNNY EARS"),
    (0x1f470, "BRIDE WITH VEIL;;;;;;BABY;;PRINCESS;;;GHOST;;EXTRATERRESTRIAL ALIEN"),
    (0x1f47e, "ALIEN MONSTER;IMP;SKULL;INFORMATION DESK PERSON;GUARDSMAN;DANCER;LIPSTICK"),
    (0x1f485, "NAIL POLISH;;HAIRCUT;BARBER POLE;SYRINGE;PILL;KISS MARK;LOVE LETTER;RING"),
    (0x1f48e, "GEM STONE;KISS;BOUQUET;COUPLE WITH HEART;WEDDING;BEATING HEART;BROKEN HEART"),
    (0x1f496, "SPARKLING HEART;GROWING HEART;;BLUE HEART;;YELLOW HEART;PURPLE HEART"),
    (0x1f49e, "REVOLVING HEARTS;;DIAMOND SHAPE WITH A DOT INSIDE;;ANGER SYMBOL;BOMB"),
    (0x1f4a5, "COLLISION SYMBOL;SPLASHING SWEAT SYMBOL;DROPLET;DASH SYMBOL;PILE OF POO"),
    (0x1f4aa, "FLEXED BICEPS;DIZZY SYMBOL;SPEECH BALLOON;THOUGHT BALLOON;;HUNDRED POINTS SYMBOL"),
    (0x1f4b0, "MONEY BAG;CURRENCY EXCHANGE;;CREDIT CARD;;;;;MONEY WITH WINGS;;SEAT"),
    (0x1f4bb, "PERSONAL COMPUTER;BRIEFCASE;MINIDISC;FLOPPY DISK;OPTICAL DISC;DVD;FILE FOLDER"),
    (0x1f4c3, "PAGE WITH CURL;PAGE FACING UP;CALENDAR;TEAR-OFF CALENDAR;CARD INDEX;;;BAR CHART"),
    (0x1f4cb, "CLIPBOARD;PUSHPIN;ROUND PUSHPIN;PAPERCLIP;STRAIGHT RULER;TRIANGULAR RULER"),
    (0x1f4d1, "BOOKMARK TABS;LEDGER;NOTEBOOK;NOTEBOOK WITH DECORATIVE COVER;;;;BLUE BOOK"),
    (0x1f4d9, "ORANGE BOOK;BOOKS;NAME BADGE;SCROLL;MEMO;;PAGER;FAX MACHINE;SATELLITE ANTENNA"),
    (0x1f4e2, "PUBLIC ADDRESS LOUDSPEAKER;CHEERING MEGAPHONE;OUTBOX TRAY;INBOX TRAY;PACKAGE"),
    (0x1f4e7, "E-MAIL SYMBOL;INCOMING ENVELOPE;ENVELOPE WITH DOWNWARDS ARROW ABOVE;;;;;POSTBOX"),
    (0x1f4ef, "POSTAL HORN;NEWSPAPER;;;VIBRATION MODE;;;ANTENNA WITH BARS;CAMERA"),
    (0x1f4f8, "CAMERA WITH FLASH;VIDEO CAMERA;TELEVISION;RADIO;VIDEOCASSETTE;FILM PROJECTOR"),
    (0x1f4fe, "PORTABLE STEREO;PRAYER BEADS;TWISTED RIGHTWARDS ARROWS"),
    (0x1f504, "ANTICLOCKWISE DOWNWARDS AND UPWARDS OPEN CIRCLE ARROWS;LOW BRIGHTNESS SYMBOL"),
    (0x1f506, "HIGH BRIGHTNESS SYMBOL;;SPEAKER;;;BATTERY;;LEFT-POINTING MAGNIFYING GLASS"),
    (0x1f50e, "RIGHT-POINTING MAGNIFYING GLASS;LOCK WITH INK PEN;;KEY;LOCK;;BELL"),
    (0x1f515, "BELL WITH CANCELLATION STROKE;BOOKMARK;LINK SYMBOL;RADIO BUTTON"),
    (0x1f519, "BACK WITH LEFTWARDS ARROW ABOVE;END WITH LEFTWARDS ARROW ABOVE"),
    (0x1f51b, "ON WITH EXCLAMATION MARK WITH LEFT RIGHT ARROW ABOVE"),
    (0x1f51c, "SOON WITH RIGHTWARDS ARROW ABOVE;TOP WITH UPWARDS ARROW ABOVE;;KEYCAP TEN"),
    (0x1f525, "FIRE;;WRENCH;HAMMER;NUT AND BOLT;HOCHO;PISTOL;MICROSCOPE;TELESCOPE;CRYSTAL BALL"),
    (0x1f52f, "SIX POINTED STAR WITH MIDDLE DOT;;TRIDENT EMBLEM"),
    (0x1f541, "CROSS POMMEE WITH HALF-CIRCLE BELOW;CROSS POMMEE"),
    (0x1f543, "NOTCHED LEFT SEMICIRCLE WITH THREE DOTS;NOTCHED RIGHT SEMICIRCLE WITH THREE DOTS"),
    (0x1f545, "SYMBOL FOR MARKS CHAPTER;;;CELTIC CROSS;OM SYMBOL;DOVE OF PEACE;KAABA;MOSQUE"),
    (0x1f54d, "SYNAGOGUE;MENORAH WITH NINE BRANCHES;BOWL OF HYGIEIA"), (0x1f56b, "BULLHORN"),
    (0x1f56c, "BULLHORN WITH SOUND WAVES;RINGING BELL;BOOK;CANDLE;MANTELPIECE CLOCK;;;HOLE"),
    (0x1f575, "SLEUTH OR SPY;DARK SUNGLASSES;SPIDER;SPIDER WEB;JOYSTICK"),
    (0x1f581, "CLAMSHELL MOBILE PHONE;BACK OF ENVELOPE;STAMPED ENVELOPE;ENVELOPE WITH LIGHTNING"),
    (0x1f586, "PEN OVER STAMPED ENVELOPE;LINKED PAPERCLIPS"), (0x1f5a5, "DESKTOP COMPUTER"),
    (0x1f5a6, "KEYBOARD AND MOUSE;;PRINTER;POCKET CALCULATOR;;;SOFT SHELL FLOPPY DISK"),
    (0x1f5ad, "TAPE CARTRIDGE;WIRED KEYBOARD;ONE BUTTON MOUSE;;;TRACKBALL;OLD PERSONAL COMPUTER"),
    (0x1f5b4, "HARD DISK;SCREEN;PRINTER ICON;FAX ICON;OPTICAL DISC ICON;;;;;;;;FOLDER"),
    (0x1f5c2, "CARD INDEX DIVIDERS;CARD FILE BOX;FILE CABINET;;;;NOTE;NOTE PAGE;NOTE PAD"),
    (0x1f5ce, "DOCUMENT;PAGE;PAGES;WASTEBASKET;;;DESKTOP WINDOW;MINIMIZE;MAXIMIZE;OVERLAP"),
    (0x1f5d9, "CANCELLATION X;INCREASE FONT SIZE SYMBOL;DECREASE FONT SIZE SYMBOL;COMPRESSION"),
    (0x1f5dd, "OLD KEY;ROLLED-UP NEWSPAPER;PAGE WITH CIRCLED TEXT;STOCK CHART;DAGGER KNIFE;LIPS"),
    (0x1f5e3, "SPEAKING HEAD IN SILHOUETTE"), (0x1f5f0, "MOOD BUBBLE;LIGHTNING MOOD BUBBLE"),
    (0x1f5f2, "LIGHTNING MOOD;;;;;;;;WORLD MAP;MOUNT FUJI;TOKYO TOWER;STATUE OF LIBERTY"),
    (0x1f5fe, "SILHOUETTE OF JAPAN;MOYAI"), (0x1f609, "WINKING FACE;;;RELIEVED FACE"),
    (0x1f60f, "SMIRKING FACE;;EXPRESSIONLESS FACE;UNAMUSED FACE;;PENSIVE FACE;CONFUSED FACE"),
    (0x1f616, "CONFOUNDED FACE"), (0x1f61f, "WORRIED FACE;ANGRY FACE;POUTING FACE;CRYING FACE"),
    (0x1f623, "PERSEVERING FACE;;;FROWNING FACE WITH OPEN MOUTH;ANGUISHED FACE;FEARFUL FACE"),
    (0x1f629, "WEARY FACE;SLEEPY FACE;TIRED FACE;GRIMACING FACE;LOUDLY CRYING FACE;;HUSHED FACE"),
    (0x1f632, "ASTONISHED FACE;FLUSHED FACE;;DIZZY FACE;;;;CAT FACE WITH TEARS OF JOY"),
    (0x1f63c, "CAT FACE WITH WRY SMILE;;POUTING CAT FACE;CRYING CAT FACE;WEARY CAT FACE"),
    (0x1f641, "SLIGHTLY FROWNING FACE;SLIGHTLY SMILING FACE;UPSIDE-DOWN FACE"),
    (0x1f648, "SEE-NO-EVIL MONKEY;HEAR-NO-EVIL MONKEY;SPEAK-NO-EVIL MONKEY"),
    (0x1f64b, "HAPPY PERSON RAISING ONE HAND"), (0x1f668, "HOLLOW QUILT SQUARE ORNAMENT"),
    (0x1f669, "HOLLOW QUILT SQUARE ORNAMENT IN BLACK SQUARE;SOLID QUILT SQUARE ORNAMENT"),
    (0x1f66b, "SOLID QUILT SQUARE ORNAMENT IN BLACK SQUARE;;;;;SCRIPT LIGATURE ET ORNAMENT"),
    (0x1f672, "LIGATURE OPEN ET ORNAMENT;;;SWASH AMPERSAND ORNAMENT"), (0x1f67e, "CHECKER BOARD"),
    (0x1f67f, "REVERSE CHECKER BOARD;ROCKET;HELICOPTER;STEAM LOCOMOTIVE;RAILWAY CAR"),
    (0x1f684, "HIGH-SPEED TRAIN;HIGH-SPEED TRAIN WITH BULLET NOSE;TRAIN;METRO;;STATION;TRAM"),
    (0x1f68b, "TRAM CAR;BUS;;TROLLEYBUS;BUS STOP;MINIBUS;AMBULANCE;FIRE ENGINE;;;TAXI"),
    (0x1f697, "AUTOMOBILE;;RECREATIONAL VEHICLE;DELIVERY TRUCK;ARTICULATED LORRY;TRACTOR"),
    (0x1f69d, "MONORAIL;;SUSPENSION RAILWAY;;AERIAL TRAMWAY;SHIP;ROWBOAT;SPEEDBOAT"),
    (0x1f6a9, "TRIANGULAR FLAG ON POST;DOOR;;SMOKING SYMBOL;;PUT LITTER IN ITS PLACE SYMBOL"),
    (0x1f6af, "DO NOT LITTER SYMBOL;POTABLE WATER SYMBOL;NON-POTABLE WATER SYMBOL;BICYCLE"),
    (0x1f6b4, "BICYCLIST;;PEDESTRIAN;;CHILDREN CROSSING;MENS SYMBOL;WOMENS SYMBOL;RESTROOM"),
    (0x1f6bd, "TOILET;;SHOWER;BATH;BATHTUB;PASSPORT CONTROL;CUSTOMS;BAGGAGE CLAIM"),
    (0x1f6c6, "TRIANGLE WITH ROUNDED CORNERS;PROHIBITED SIGN;;BOYS SYMBOL;GIRLS SYMBOL"),
    (0x1f6cb, "COUCH AND LAMP;;SHOPPING BAGS;BELLHOP BELL;BED;PLACE OF WORSHIP;OCTAGONAL SIGN"),
    (0x1f6d2, "SHOPPING TROLLEY;STUPA;PAGODA;HINDU TEMPLE;HUT;ELEVATOR;;;;;;PLAYGROUND SLIDE"),
    (0x1f6de, "WHEEL;RING BUOY;HAMMER AND WRENCH;SHIELD;OIL DRUM;MOTORWAY;RAILWAY TRACK"),
    (0x1f6e5, "MOTOR BOAT;;;;;NORTHEAST-POINTING AIRPLANE;AIRPLANE DEPARTURE;AIRPLANE ARRIVING"),
    (0x1f6f0, "SATELLITE;;DIESEL LOCOMOTIVE;PASSENGER SHIP;SCOOTER;MOTOR SCOOTER;CANOE;SLED"),
    (0x1f6f9, "SKATEBOARD;AUTO RICKSHAW;PICKUP TRUCK;ROLLER SKATE"), (0x1f78b, "ROUND TARGET"),
    (0x1f79c, "DIAMOND TARGET;;;;;THIN GREEK CROSS;;;;;;;THIN SALTIRE"),
    (0x1f7c6, "FOUR POINTED BLACK STAR;;REVERSE LIGHT FOUR POINTED PINWHEEL STAR"),
    (0x1f7cd, "SIX POINTED PINWHEEL STAR"), (0x1f859, "UP DOWN SANS-SERIF ARROW"),
    (0x1f8b0, "ARROW POINTING UPWARDS THEN NORTH WEST"),
    (0x1f8b1, "ARROW POINTING RIGHTWARDS THEN CURVING SOUTH WEST"), (0x1f90c, "PINCHED FINGERS"),
    (0x1f90e, "BROWN HEART;PINCHING HAND;ZIPPER-MOUTH FACE;MONEY-MOUTH FACE;;NERD FACE"),
    (0x1f914, "THINKING FACE;;ROBOT FACE;HUGGING FACE;SIGN OF THE HORNS;CALL ME HAND"),
    (0x1f91b, "LEFT-FACING FIST;RIGHT-FACING FIST;HANDSHAKE"),
    (0x1f91e, "HAND WITH INDEX AND MIDDLE FINGERS CROSSED;I LOVE YOU HAND SIGN;;CLOWN FACE"),
    (0x1f922, "NAUSEATED FACE;ROLLING ON THE FLOOR LAUGHING;DROOLING FACE;LYING FACE"),
    (0x1f927, "SNEEZING FACE;;;;;SERIOUS FACE WITH SYMBOLS COVERING MOUTH"),
    (0x1f92f, "SHOCKED FACE WITH EXPLODING HEAD;;BREAST-FEEDING;PALMS UP TOGETHER;SELFIE;PRINCE"),
    (0x1f936, "MOTHER CHRISTMAS;SHRUG;;JUGGLING;FENCER;MODERN PENTATHLON;WRESTLERS;;HANDBALL"),
    (0x1f93f, "DIVING MASK;WILTED FLOWER;DRUM WITH DRUMSTICKS;CLINKING GLASSES;TUMBLER GLASS"),
    (0x1f944, "SPOON;GOAL NET;RIFLE;;SECOND PLACE MEDAL;THIRD PLACE MEDAL;BOXING GLOVE"),
    (0x1f94b, "MARTIAL ARTS UNIFORM;CURLING STONE;LACROSSE STICK AND BALL;SOFTBALL;;CROISSANT"),
    (0x1f951, "AVOCADO;CUCUMBER;BACON;POTATO;CARROT;BAGUETTE BREAD;;SHALLOW PAN OF FOOD"),
    (0x1f959, "STUFFED FLATBREAD;EGG;GLASS OF MILK;PEANUTS;KIWIFRUIT;PANCAKES;DUMPLING"),
    (0x1f960, "FORTUNE COOKIE;TAKEOUT BOX;CHOPSTICKS;BOWL WITH SPOON;CUP WITH STRAW;COCONUT"),
    (0x1f966, "BROCCOLI;PIE;PRETZEL;CUT OF MEAT;SANDWICH;CANNED FOOD;LEAFY GREEN;MANGO"),
    (0x1f96e, "MOON CAKE;BAGEL;;YAWNING FACE;;;;OVERHEATED FACE;FREEZING FACE;NINJA"),
    (0x1f978, "DISGUISED FACE;;;SARI;LAB COAT;GOGGLES;HIKING BOOT;FLAT SHOE;CRAB;LION FACE"),
    (0x1f982, "SCORPION;TURKEY;UNICORN FACE;EAGLE;DUCK;BAT;SHARK;OWL;FOX FACE;BUTTERFLY;DEER"),
    (0x1f98d, "GORILLA;LIZARD;RHINOCEROS;SHRIMP;SQUID;GIRAFFE FACE;ZEBRA FACE;HEDGEHOG;SAUROPOD"),
    (0x1f996, "T-REX;CRICKET;KANGAROO;LLAMA;PEACOCK;HIPPOPOTAMUS;PARROT;RACCOON;LOBSTER"),
    (0x1f99f, "MOSQUITO;MICROBE;BADGER;SWAN;MAMMOTH;DODO;SLOTH;OTTER;ORANGUTAN;SKUNK;FLAMINGO"),
    (0x1f9aa, "OYSTER;BEAVER;BISON;SEAL;GUIDE DOG;PROBING CANE;;;;;BONE;LEG;FOOT;TOOTH"),
    (0x1f9b8, "SUPERHERO;SUPERVILLAIN;SAFETY VEST;EAR WITH HEARING AID;MOTORIZED WHEELCHAIR"),
    (0x1f9bd, "MANUAL WHEELCHAIR;MECHANICAL ARM;MECHANICAL LEG;CHEESE WEDGE;CUPCAKE;SALT SHAKER"),
    (0x1f9c3, "BEVERAGE BOX;GARLIC;ONION;FALAFEL;WAFFLE;BUTTER;MATE DRINK;ICE CUBE;BUBBLE TEA"),
    (0x1f9cc, "TROLL;STANDING PERSON;KNEELING PERSON;DEAF PERSON;;ADULT;CHILD;;BEARDED PERSON"),
    (0x1f9d9, "MAGE;FAIRY;VAMPIRE;MERPERSON;ELF;GENIE;ZOMBIE;BRAIN;ORANGE HEART;BILLED CAP"),
    (0x1f9e3, "SCARF;GLOVES;COAT;SOCKS;RED GIFT ENVELOPE;FIRECRACKER;JIGSAW PUZZLE PIECE"),
    (0x1f9ea, "TEST TUBE;PETRI DISH;DNA DOUBLE HELIX;COMPASS;ABACUS;FIRE EXTINGUISHER;TOOLBOX"),
    (0x1f9f1, "BRICK;MAGNET;LUGGAGE;LOTION BOTTLE;SPOOL OF THREAD;BALL OF YARN;SAFETY PIN"),
    (0x1f9f8, "TEDDY BEAR;BROOM;BASKET;ROLL OF PAPER;BAR OF SOAP;SPONGE;RECEIPT;NAZAR AMULET"),
    (0x1fa70, "BALLET SHOES;ONE-PIECE SWIMSUIT;BRIEFS;SHORTS;THONG SANDAL;;;;DROP OF BLOOD"),
    (0x1fa79, "ADHESIVE BANDAGE;STETHOSCOPE;X-RAY;CRUTCH;;;;YO-YO;KITE;PARACHUTE;BOOMERANG"),
    (0x1fa84, "MAGIC WAND;PINATA;NESTING DOLLS"), (0x1fa90, "RINGED PLANET;CHAIR;RAZOR;AXE"),
    (0x1fa94, "DIYA LAMP;BANJO;MILITARY HELMET;ACCORDION;LONG DRUM;COIN;CARPENTRY SAW"),
    (0x1fa9b, "SCREWDRIVER;LADDER;HOOK;MIRROR;WINDOW;PLUNGER;SEWING NEEDLE;KNOT;BUCKET"),
    (0x1faa4, "MOUSE TRAP;TOOTHBRUSH;HEADSTONE;PLACARD;ROCK;MIRROR BALL;IDENTIFICATION CARD"),
    (0x1faab, "LOW BATTERY;HAMSA;;;;FLY;WORM;BEETLE;COCKROACH;POTTED PLANT;WOOD;FEATHER;LOTUS"),
    (0x1fab8, "CORAL;;NEST WITH EGGS;;;;;;ANATOMICAL HEART;LUNGS;PEOPLE HUGGING"),
    (0x1fad0, "BLUEBERRIES;BELL PEPPER;OLIVE;FLATBREAD;TAMALE;FONDUE;TEAPOT;POURING LIQUID"),
    (0x1fad8, "BEANS;JAR;;;;;;;MELTING FACE;SALUTING FACE;;;;DOTTED LINE FACE;BITING LIP"),
    (0x1fae7, "BUBBLES"), (0x1faf0, "HAND WITH INDEX FINGER AND THUMB CROSSED;;;PALM DOWN HAND"),
    (0x1faf4, "PALM UP HAND;INDEX POINTING AT THE VIEWER"), (0x1fb95, "CHECKER BOARD FILL"),
    (0x1fbb0, "ARROWHEAD-SHAPED POINTER"), (0x1fbbb, "VOIDED GREEK CROSS"),
    (0x1fbc2, "MIDDLE THIRD WHITE RIGHT POINTING INDEX"), (0xe0001, "LANGUAGE TAG"),
    (0xe007f, "CANCEL TAG")]⟩,
  ⟨"CIRCLED ", [
    (0x1f10d, "ZERO WITH SLASH;ANTICLOCKWISE ARROW;DOLLAR SIGN WITH OVERLAID BACKSLASH"),
    (0x1f12b, "ITALIC LATIN CAPITAL LETTER C;ITALIC LATIN CAPITAL LETTER R;CD;WZ"),
    (0x1f16d, "CC;C WITH OVERLAID BACKSLASH;HUMAN FIGURE"), (0x1f250, "IDEOGRAPH ADVANTAGE"),
    (0x1f251, "IDEOGRAPH ACCEPT"), (0x1f540, "CROSS POMMEE"), (0x1f6c8, "INFORMATION SOURCE"),
    (0x1f7d5, "TRIANGLE;;SQUARE"), (0x1f900, "CROSS FORMEE WITH FOUR DOTS"),
    (0x1f901, "CROSS FORMEE WITH TWO DOTS;CROSS FORMEE")]⟩,
  ⟨"PARENTHESIZED LATIN CAPITAL LETTER ", [
    (0x1f110, "A;B;C;D;E;F;G;H;I;J;K;L;M;N;O;P;Q;R;S;T;U;V;W;X;Y;Z")]⟩,
  ⟨"TORTOISE SHELL BRACKETED ", [(0x1f12a, "LATIN CAPITAL LETTER S")]⟩,
  ⟨"SQUARED LATIN CAPITAL LETTER ", [
    (0x1f130, "A;B;C;D;E;F;G;H;I;J;K;L;M;N;O;P;Q;R;S;T;U;V;W;X;Y;Z")]⟩,
  ⟨"SQUARED ", [
    (0x1f14a, "HV;MV;SD;SS;PPV;WC"), (0x1f191, "CL;COOL;FREE;ID;NEW;NG;OK;SOS"),
    (0x1f199, "UP WITH EXCLAMATION MARK;VS;THREE D;SECOND SCREEN;TWO K;FOUR K;EIGHT K"),
    (0x1f1a0, "FIVE POINT ONE;SEVEN POINT ONE;TWENTY-TWO POINT TWO;SIXTY P;ONE HUNDRED TWENTY P"),
    (0x1f1a6, "HC;HDR;HI-RES;LOSSLESS;SHV;UHD;VOD"), (0x1f201, "KATAKANA KOKO;KATAKANA SA"),
    (0x1f213, "KATAKANA DE")]⟩,
  ⟨"NEGATIVE CIRCLED LATIN CAPITAL LETTER ", [
    (0x1f150, "A;B;C;D;E;F;G;H;I;J;K;L;M;N;O;P;Q;R;S;T;U;V;W;X;Y;Z")]⟩,
  ⟨"RAISED ", [
    (0x1f16a, "MC SIGN;MD SIGN;MR SIGN"), (0x1f590, "HAND WITH FINGERS SPLAYED"),
    (0x1f596, "HAND WITH PART BETWEEN MIDDLE AND RING FINGERS"), (0x1f91a, "BACK OF HAND")]⟩,
  ⟨"NEGATIVE SQUARED LATIN CAPITAL LETTER ", [
    (0x1f170, "A;B;C;D;E;F;G;H;I;J;K;L;M;N;O;P;Q;R;S;T;U;V;W;X;Y;Z")]⟩,
  ⟨"NEGATIVE SQUARED ", [(0x1f18b, "IC;PA;SA;AB;WC"), (0x1fbc4, "QUESTION MARK")]⟩,
  ⟨"SQUARE ", [(0x1f190, "DJ"), (0x1f200, "HIRAGANA HOKA"), (0x1f796, "TARGET")]⟩,
  ⟨"SQUARED LATIN ", [(0x1f1a5, "SMALL LETTER D")]⟩,
  ⟨"REGIONAL INDICATOR SYMBOL LETTER ", [
    (0x1f1e6, "A;B;C;D;E;F;G;H;I;J;K;L;M;N;O;P;Q;R;S;T;U;V;W;X;Y;Z")]⟩,
  ⟨"SQUARED CJK UNIFIED ", [
    (0x1f210, "IDEOGRAPH-624B;IDEOGRAPH-5B57;IDEOGRAPH-53CC;;IDEOGRAPH-4E8C;IDEOGRAPH-591A"),
    (0x1f216, "IDEOGRAPH-89E3;IDEOGRAPH-5929;IDEOGRAPH-4EA4;IDEOGRAPH-6620;IDEOGRAPH-7121"),
    (0x1f21b, "IDEOGRAPH-6599;IDEOGRAPH-524D;IDEOGRAPH-5F8C;IDEOGRAPH-518D;IDEOGRAPH-65B0"),
    (0x1f220, "IDEOGRAPH-521D;IDEOGRAPH-7D42;IDEOGRAPH-751F;IDEOGRAPH-8CA9;IDEOGRAPH-58F0"),
    (0x1f225, "IDEOGRAPH-5439;IDEOGRAPH-6F14;IDEOGRAPH-6295;IDEOGRAPH-6355;IDEOGRAPH-4E00"),
    (0x1f22a, "IDEOGRAPH-4E09;IDEOGRAPH-904A;IDEOGRAPH-5DE6;IDEOGRAPH-4E2D;IDEOGRAPH-53F3"),
    (0x1f22f, "IDEOGRAPH-6307;IDEOGRAPH-8D70;IDEOGRAPH-6253;IDEOGRAPH-7981;IDEOGRAPH-7A7A"),
    (0x1f234, "IDEOGRAPH-5408;IDEOGRAPH-6E80;IDEOGRAPH-6709;IDEOGRAPH-6708;IDEOGRAPH-7533"),
    (0x1f239, "IDEOGRAPH-5272;IDEOGRAPH-55B6;IDEOGRAPH-914D")]⟩,
  ⟨"TORTOISE SHELL BRACKETED CJK UNIFIED ", [
    (0x1f240, "IDEOGRAPH-672C;IDEOGRAPH-4E09;IDEOGRAPH-4E8C;IDEOGRAPH-5B89;IDEOGRAPH-70B9"),
    (0x1f245, "IDEOGRAPH-6253;IDEOGRAPH-76D7;IDEOGRAPH-52DD;IDEOGRAPH-6557")]⟩,
  ⟨"ROUNDED SYMBOL ", [(0x1f260, "FOR FU;FOR LU;FOR SHOU;FOR XI;FOR SHUANGXI;FOR CAI")]⟩,
  ⟨"CLOSED ", [
    (0x1f302, "UMBRELLA"), (0x1f4d5, "BOOK"), (0x1f4ea, "MAILBOX WITH LOWERED FLAG"),
    (0x1f4eb, "MAILBOX WITH RAISED FLAG"), (0x1f510, "LOCK WITH KEY")]⟩,
  ⟨"WATER ", [(0x1f30a, "WAVE"), (0x1f403, "BUFFALO"), (0x1f6be, "CLOSET"), (0x1f93d, "POLO")]⟩,
  ⟨"EARTH ", [(0x1f30d, "GLOBE EUROPE-AFRICA;GLOBE AMERICAS;GLOBE ASIA-AUSTRALIA")]⟩,
  ⟨"FIRST ", [
    (0x1f313, "QUARTER MOON SYMBOL;;;;;;;;QUARTER MOON WITH FACE"), (0x1f947, "PLACE MEDAL")]⟩,
  ⟨"BLACK ", [
    (0x1f322, "DROPLET"), (0x1f3f2, "PENNANT;;;;ROSETTE"), (0x1f532, "SQUARE BUTTON"),
    (0x1f571, "SKULL AND CROSSBONES"), (0x1f57f, "TOUCHTONE TELEPHONE"), (0x1f588, "PUSHPIN"),
    (0x1f59c, "LEFT POINTING BACKHAND INDEX;RIGHT POINTING BACKHAND INDEX"),
    (0x1f5a2, "UP POINTING BACKHAND INDEX;DOWN POINTING BACKHAND INDEX;HEART"),
    (0x1f5aa, "HARD SHELL FLOPPY DISK"), (0x1f5bf, "FOLDER"),
    (0x1f780, "LEFT-POINTING ISOSCELES RIGHT TRIANGLE;UP-POINTING ISOSCELES RIGHT TRIANGLE"),
    (0x1f782, "RIGHT-POINTING ISOSCELES RIGHT TRIANGLE;DOWN-POINTING ISOSCELES RIGHT TRIANGLE"),
    (0x1f784, "SLIGHTLY SMALL CIRCLE;;;;;;;;TINY SQUARE;SLIGHTLY SMALL SQUARE"),
    (0x1f797, "TINY DIAMOND;VERY SMALL DIAMOND;MEDIUM SMALL DIAMOND;;;;TINY LOZENGE"),
    (0x1f79e, "VERY SMALL LOZENGE;MEDIUM SMALL LOZENGE")]⟩,
  ⟨"WHITE ", [
    (0x1f323, "SUN;SUN WITH SMALL CLOUD;SUN BEHIND CLOUD;SUN BEHIND CLOUD WITH RAIN"),
    (0x1f3f1, "PENNANT"), (0x1f446, "UP POINTING BACKHAND INDEX;DOWN POINTING BACKHAND INDEX"),
    (0x1f448, "LEFT POINTING BACKHAND INDEX;RIGHT POINTING BACKHAND INDEX"), (0x1f4ae, "FLOWER"),
    (0x1f533, "SQUARE BUTTON"), (0x1f546, "LATIN CROSS"), (0x1f57e, "TOUCHTONE TELEPHONE"),
    (0x1f597, "DOWN POINTING LEFT HAND INDEX"), (0x1f5ab, "HARD SHELL FLOPPY DISK"),
    (0x1f78a, "CIRCLE CONTAINING BLACK SMALL CIRCLE"),
    (0x1f794, "SQUARE CONTAINING BLACK VERY SMALL SQUARE;SQUARE CONTAINING BLACK MEDIUM SQUARE"),
    (0x1f79a, "DIAMOND CONTAINING BLACK VERY SMALL DIAMOND"),
    (0x1f79b, "DIAMOND CONTAINING BLACK MEDIUM DIAMOND"),
    (0x1f7a0, "LOZENGE CONTAINING BLACK SMALL LOZENGE"), (0x1f8ac, "ARROW SHAFT WIDTH ONE"),
    (0x1f8ad, "ARROW SHAFT WIDTH TWO THIRDS"), (0x1f90d, "HEART"),
    (0x1fbc0, "HEAVY SALTIRE WITH ROUNDED CORNERS"), (0x1fbca, "UP-POINTING CHEVRON")]⟩,
  ⟨"CLOUD ", [(0x1f327, "WITH RAIN;WITH SNOW;WITH LIGHTNING;WITH TORNADO")]⟩,
  ⟨"GREEN ", [(0x1f34f, "APPLE"), (0x1f49a, "HEART"), (0x1f4d7, "BOOK"), (0x1f957, "SALAD")]⟩,
  ⟨"BABY ", [(0x1f37c, "BOTTLE"), (0x1f424, "CHICK"), (0x1f47c, "ANGEL"), (0x1f6bc, "SYMBOL")]⟩,
  ⟨"JAPANESE ", [
    (0x1f38e, "DOLLS"), (0x1f3e3, "POST OFFICE"), (0x1f3ef, "CASTLE"), (0x1f479, "OGRE;GOBLIN"),
    (0x1f530, "SYMBOL FOR BEGINNER")]⟩,
  ⟨"HEART ", [
    (0x1f394, "WITH TIP ON THE LEFT"), (0x1f498, "WITH ARROW;;;;;WITH RIBBON;;DECORATION"),
    (0x1faf6, "HANDS")]⟩,
  ⟨"MUSICAL ", [(0x1f398, "KEYBOARD WITH JACKS"), (0x1f3b5, "NOTE;;;;KEYBOARD;;;SCORE")]⟩,
  ⟨"HOUSE ", [(0x1f3d8, "BUILDINGS;;;;;;;;BUILDING;WITH GARDEN")]⟩,
  ⟨"WAVING ", [(0x1f3f3, "WHITE FLAG;BLACK FLAG"), (0x1f44b, "HAND SIGN")]⟩,
  ⟨"EMOJI MODIFIER FITZPATRICK ", [(0x1f3fb, "TYPE-1-2;TYPE-3;TYPE-4;TYPE-5;TYPE-6")]⟩,
  ⟨"SPIRAL ", [(0x1f41a, "SHELL"), (0x1f5d2, "NOTE PAD;CALENDAR PAD")]⟩,
  ⟨"OPEN ", [
    (0x1f450, "HANDS SIGN"), (0x1f4c2, "FILE FOLDER"), (0x1f4d6, "BOOK"),
    (0x1f4ec, "MAILBOX WITH RAISED FLAG;MAILBOX WITH LOWERED FLAG"), (0x1f513, "LOCK"),
    (0x1f5c1, "FOLDER")]⟩,
  ⟨"WOMANS ", [(0x1f452, "HAT;;;;;;;;CLOTHES;;;;;;;SANDAL;BOOTS")]⟩,
  ⟨"MAN ", [
    (0x1f46b, "AND WOMAN HOLDING HANDS;;;;;;;WITH GUA PI MAO;WITH TURBAN"),
    (0x1f574, "IN BUSINESS SUIT LEVITATING;;;;;;DANCING"), (0x1f935, "IN TUXEDO")]⟩,
  ⟨"TWO ", [
    (0x1f46c, "MEN HOLDING HANDS;WOMEN HOLDING HANDS"), (0x1f495, "HEARTS"),
    (0x1f5b0, "BUTTON MOUSE"), (0x1f5ea, "SPEECH BUBBLES")]⟩,
  ⟨"POLICE ", [(0x1f46e, "OFFICER"), (0x1f693, "CAR"), (0x1f6a8, "CARS REVOLVING LIGHT")]⟩,
  ⟨"PERSON WITH ", [
    (0x1f471, "BLOND HAIR"), (0x1f64e, "POUTING FACE;FOLDED HANDS"), (0x1f9d5, "HEADSCARF"),
    (0x1fac5, "CROWN")]⟩,
  ⟨"OLDER ", [(0x1f474, "MAN;WOMAN"), (0x1f9d3, "ADULT")]⟩,
  ⟨"CONSTRUCTION ", [(0x1f477, "WORKER"), (0x1f6a7, "SIGN")]⟩,
  ⟨"FACE ", [
    (0x1f486, "MASSAGE"), (0x1f60b, "SAVOURING DELICIOUS FOOD"), (0x1f618, "THROWING A KISS"),
    (0x1f631, "SCREAMING IN FEAR;;;;;WITHOUT MOUTH"), (0x1f926, "PALM"),
    (0x1f979, "HOLDING BACK TEARS")]⟩,
  ⟨"ELECTRIC ", [(0x1f4a1, "LIGHT BULB"), (0x1f50c, "PLUG"), (0x1f526, "TORCH")]⟩,
  ⟨"SLEEPING ", [(0x1f4a4, "SYMBOL"), (0x1f634, "FACE"), (0x1f6cc, "ACCOMMODATION")]⟩,
  ⟨"HEAVY ", [
    (0x1f4b2, "DOLLAR SIGN"), (0x1f547, "LATIN CROSS"), (0x1f671, "SCRIPT LIGATURE ET ORNAMENT"),
    (0x1f673, "LIGATURE OPEN ET ORNAMENT;AMPERSAND ORNAMENT;;;;;INTERROBANG ORNAMENT"),
    (0x1f67b, "SANS-SERIF INTERROBANG ORNAMENT"), (0x1f787, "WHITE CIRCLE"),
    (0x1f791, "WHITE SQUARE"), (0x1f7ac, "SALTIRE;;;;;;FIVE SPOKED ASTERISK"),
    (0x1f7b8, "SIX SPOKED ASTERISK;;;;;;EIGHT SPOKED ASTERISK"),
    (0x1f7ca, "FIVE POINTED BLACK STAR;;SIX POINTED BLACK STAR;;;EIGHT POINTED BLACK STAR"),
    (0x1f7d1, "EIGHT POINTED PINWHEEL STAR;;TWELVE POINTED BLACK STAR"),
    (0x1f7d4, "TWELVE POINTED PINWHEEL STAR"), (0x1f7f0, "EQUALS SIGN"),
    (0x1f818, "LEFTWARDS ARROW WITH EQUILATERAL ARROWHEAD"),
    (0x1f819, "UPWARDS ARROW WITH EQUILATERAL ARROWHEAD"),
    (0x1f81a, "RIGHTWARDS ARROW WITH EQUILATERAL ARROWHEAD"),
    (0x1f81b, "DOWNWARDS ARROW WITH EQUILATERAL ARROWHEAD"),
    (0x1f81c, "LEFTWARDS ARROW WITH LARGE EQUILATERAL ARROWHEAD"),
    (0x1f81d, "UPWARDS ARROW WITH LARGE EQUILATERAL ARROWHEAD"),
    (0x1f81e, "RIGHTWARDS ARROW WITH LARGE EQUILATERAL ARROWHEAD"),
    (0x1f81f, "DOWNWARDS ARROW WITH LARGE EQUILATERAL ARROWHEAD"), (0x1fb97, "HORIZONTAL FILL")]⟩,
  ⟨"BANKNOTE ", [(0x1f4b4, "WITH YEN SIGN;WITH DOLLAR SIGN;WITH EURO SIGN;WITH POUND SIGN")]⟩,
  ⟨"CHART ", [
    (0x1f4b9, "WITH UPWARDS TREND AND YEN SIGN"), (0x1f4c8, "WITH UPWARDS TREND"),
    (0x1f4c9, "WITH DOWNWARDS TREND")]⟩,
  ⟨"TELEPHONE ", [(0x1f4de, "RECEIVER"), (0x1f57c, "RECEIVER WITH PAGE;;;;ON TOP OF MODEM")]⟩,
  ⟨"MOBILE ", [(0x1f4f1, "PHONE;PHONE WITH RIGHTWARDS ARROW AT LEFT;;PHONE OFF")]⟩,
  ⟨"NO ", [
    (0x1f4f5, "MOBILE PHONES"), (0x1f51e, "ONE UNDER EIGHTEEN SYMBOL"), (0x1f572, "PIRACY"),
    (0x1f6ab, "ENTRY SIGN;;SMOKING SYMBOL;;;;;;BICYCLES;;;;PEDESTRIANS")]⟩,
  ⟨"CLOCKWISE ", [
    (0x1f501, "RIGHTWARDS AND LEFTWARDS OPEN CIRCLE ARROWS"),
    (0x1f502, "RIGHTWARDS AND LEFTWARDS OPEN CIRCLE ARROWS WITH CIRCLED ONE OVERLAY"),
    (0x1f503, "DOWNWARDS AND UPWARDS OPEN CIRCLE ARROWS"),
    (0x1f5d8, "RIGHT AND LEFT SEMICIRCLE ARROWS")]⟩,
  ⟨"SPEAKER ", [(0x1f507, "WITH CANCELLATION STROKE;;WITH ONE SOUND WAVE;WITH THREE SOUND WAVES")]⟩,
  ⟨"INPUT SYMBOL ", [
    (0x1f520, "FOR LATIN CAPITAL LETTERS;FOR LATIN SMALL LETTERS;FOR NUMBERS;FOR SYMBOLS"),
    (0x1f524, "FOR LATIN LETTERS")]⟩,
  ⟨"LARGE ", [
    (0x1f534, "RED CIRCLE;BLUE CIRCLE;ORANGE DIAMOND;BLUE DIAMOND"), (0x1f7e0, "ORANGE CIRCLE"),
    (0x1f7e1, "YELLOW CIRCLE;GREEN CIRCLE;PURPLE CIRCLE;BROWN CIRCLE;RED SQUARE;BLUE SQUARE"),
    (0x1f7e7, "ORANGE SQUARE;YELLOW SQUARE;GREEN SQUARE;PURPLE SQUARE;BROWN SQUARE")]⟩,
  ⟨"SMALL ", [(0x1f538, "ORANGE DIAMOND;BLUE DIAMOND"), (0x1f6e9, "AIRPLANE")]⟩,
  ⟨"UP-POINTING ", [
    (0x1f53a, "RED TRIANGLE;;SMALL RED TRIANGLE"), (0x1f6e6, "MILITARY AIRPLANE;AIRPLANE"),
    (0x1f6e8, "SMALL AIRPLANE")]⟩,
  ⟨"DOWN-POINTING ", [(0x1f53b, "RED TRIANGLE;;SMALL RED TRIANGLE")]⟩,
  ⟨"LOWER RIGHT ", [(0x1f53e, "SHADOWED WHITE CIRCLE"), (0x1fb9e, "TRIANGULAR MEDIUM SHADE")]⟩,
  ⟨"UPPER RIGHT ", [
    (0x1f53f, "SHADOWED WHITE CIRCLE"), (0x1fb99, "TO LOWER LEFT FILL"),
    (0x1fb9d, "TRIANGULAR MEDIUM SHADE")]⟩,
  ⟨"CLOCK FACE ", [
    (0x1f550, "ONE OCLOCK;TWO OCLOCK;THREE OCLOCK;FOUR OCLOCK;FIVE OCLOCK;SIX OCLOCK"),
    (0x1f556, "SEVEN OCLOCK;EIGHT OCLOCK;NINE OCLOCK;TEN OCLOCK;ELEVEN OCLOCK;TWELVE OCLOCK"),
    (0x1f55c, "ONE-THIRTY;TWO-THIRTY;THREE-THIRTY;FOUR-THIRTY;FIVE-THIRTY;SIX-THIRTY"),
    (0x1f562, "SEVEN-THIRTY;EIGHT-THIRTY;NINE-THIRTY;TEN-THIRTY;ELEVEN-THIRTY;TWELVE-THIRTY")]⟩,
  ⟨"RIGHT ", [
    (0x1f568, "SPEAKER;SPEAKER WITH ONE SOUND WAVE;SPEAKER WITH THREE SOUND WAVES"),
    (0x1f57d, "HAND TELEPHONE RECEIVER"), (0x1f5e9, "SPEECH BUBBLE;;;;THOUGHT BUBBLE"),
    (0x1f5ef, "ANGER BUBBLE"), (0x1fb6e, "TRIANGULAR ONE QUARTER BLOCK"),
    (0x1fb7e, "AND UPPER ONE EIGHTH BLOCK;AND LOWER ONE EIGHTH BLOCK;;;;;;;;ONE QUARTER BLOCK"),
    (0x1fb88, "THREE EIGHTHS BLOCK;FIVE EIGHTHS BLOCK;THREE QUARTERS BLOCK;SEVEN EIGHTHS BLOCK"),
    (0x1fb8d, "HALF MEDIUM SHADE"), (0x1fbb3, "HALF RUNNING MAN;;;;;;;HALF FOLDER"),
    (0x1fbbc, "OPEN SQUARED DOT;;;;;;;THIRD WHITE RIGHT POINTING INDEX")]⟩,
  ⟨"LEFT ", [
    (0x1f57b, "HAND TELEPHONE RECEIVER"), (0x1f58e, "WRITING HAND"), (0x1f5e8, "SPEECH BUBBLE"),
    (0x1f5ec, "THOUGHT BUBBLE;;ANGER BUBBLE"), (0x1f6c5, "LUGGAGE"),
    (0x1f858, "RIGHT SANS-SERIF ARROW"),
    (0x1fb69, "AND LOWER AND RIGHT TRIANGULAR THREE QUARTERS BLOCK"),
    (0x1fb6b, "AND UPPER AND RIGHT TRIANGULAR THREE QUARTERS BLOCK;TRIANGULAR ONE QUARTER BLOCK"),
    (0x1fb7c, "AND LOWER ONE EIGHTH BLOCK;AND UPPER ONE EIGHTH BLOCK"),
    (0x1fb9b, "AND RIGHT TRIANGULAR HALF BLOCK"), (0x1fbc1, "THIRD WHITE RIGHT POINTING INDEX")]⟩,
  ⟨"FLYING ", [(0x1f585, "ENVELOPE"), (0x1f6f8, "SAUCER"), (0x1f94f, "DISC")]⟩,
  ⟨"LOWER LEFT ", [
    (0x1f589, "PENCIL;BALLPOINT PEN;FOUNTAIN PEN;PAINTBRUSH;CRAYON"),
    (0x1fb9f, "TRIANGULAR MEDIUM SHADE")]⟩,
  ⟨"TURNED ", [
    (0x1f58f, "OK HAND SIGN"), (0x1f654, "NORTH WEST POINTING LEAF;SOUTH WEST POINTING LEAF"),
    (0x1f656, "NORTH EAST POINTING LEAF;SOUTH EAST POINTING LEAF")]⟩,
  ⟨"REVERSED ", [
    (0x1f591, "RAISED HAND WITH FINGERS SPLAYED;THUMBS UP SIGN;THUMBS DOWN SIGN;VICTORY HAND"),
    (0x1f595, "HAND WITH MIDDLE FINGER EXTENDED")]⟩,
  ⟨"SIDEWAYS ", [
    (0x1f598, "WHITE LEFT POINTING INDEX;WHITE RIGHT POINTING INDEX;BLACK LEFT POINTING INDEX"),
    (0x1f59b, "BLACK RIGHT POINTING INDEX;;;WHITE UP POINTING INDEX;WHITE DOWN POINTING INDEX"),
    (0x1f5a0, "BLACK UP POINTING INDEX;BLACK DOWN POINTING INDEX")]⟩,
  ⟨"THREE ", [
    (0x1f5a7, "NETWORKED COMPUTERS"), (0x1f5b1, "BUTTON MOUSE"), (0x1f5e4, "RAYS ABOVE"),
    (0x1f5e5, "RAYS BELOW;RAYS LEFT;RAYS RIGHT;;;;SPEECH BUBBLES"),
    (0x1f7c2, "POINTED BLACK STAR")]⟩,
  ⟨"DOCUMENT ", [(0x1f5b9, "WITH TEXT;WITH TEXT AND PICTURE;WITH PICTURE")]⟩,
  ⟨"FRAME ", [(0x1f5bc, "WITH PICTURE;WITH TILES;WITH AN X")]⟩,
  ⟨"EMPTY ", [(0x1f5c5, "NOTE;NOTE PAGE;NOTE PAD;;;;DOCUMENT;PAGE;PAGES"), (0x1fab9, "NEST")]⟩,
  ⟨"BALLOT ", [
    (0x1f5f3, "BOX WITH BALLOT;SCRIPT X;BOX WITH SCRIPT X;BOLD SCRIPT X;BOX WITH BOLD SCRIPT X"),
    (0x1f5f9, "BOX WITH BOLD CHECK")]⟩,
  ⟨"LIGHT ", [
    (0x1f5f8, "CHECK MARK"), (0x1f688, "RAIL"), (0x1f78e, "WHITE SQUARE"),
    (0x1f7a2, "GREEK CROSS;;;;;;;SALTIRE;;;;;;FIVE SPOKED ASTERISK;;;;;;SIX SPOKED ASTERISK"),
    (0x1f7bb, "EIGHT SPOKED ASTERISK;;;;;THREE POINTED BLACK STAR;;;;FOUR POINTED BLACK STAR"),
    (0x1f7c9, "FIVE POINTED BLACK STAR"), (0x1f7d2, "TWELVE POINTED BLACK STAR")]⟩,
  ⟨"GRINNING ", [
    (0x1f600, "FACE;FACE WITH SMILING EYES"), (0x1f638, "CAT FACE WITH SMILING EYES"),
    (0x1f929, "FACE WITH STAR EYES;FACE WITH ONE LARGE AND ONE SMALL EYE")]⟩,
  ⟨"FACE WITH ", [
    (0x1f602, "TEARS OF JOY"), (0x1f613, "COLD SWEAT;;;;;;;;STUCK-OUT TONGUE"),
    (0x1f61c, "STUCK-OUT TONGUE AND WINKING EYE;STUCK-OUT TONGUE AND TIGHTLY-CLOSED EYES"),
    (0x1f624, "LOOK OF TRIUMPH"), (0x1f62e, "OPEN MOUTH;;OPEN MOUTH AND COLD SWEAT"),
    (0x1f637, "MEDICAL MASK"), (0x1f644, "ROLLING EYES;NO GOOD GESTURE;OK GESTURE"),
    (0x1f912, "THERMOMETER;;;HEAD-BANDAGE"), (0x1f920, "COWBOY HAT;;;;;;;;ONE EYEBROW RAISED"),
    (0x1f92b, "FINGER COVERING CLOSED LIPS;;;OPEN MOUTH VOMITING"),
    (0x1f973, "PARTY HORN AND PARTY HAT;UNEVEN EYES AND WAVY MOUTH;;;;;;PLEADING EYES"),
    (0x1f9d0, "MONOCLE"), (0x1fae2, "OPEN EYES AND HAND OVER MOUTH;PEEKING EYE;DIAGONAL MOUTH")]⟩,
  ⟨"SMILING FACE WITH ", [
    (0x1f603, "OPEN MOUTH;OPEN MOUTH AND SMILING EYES;OPEN MOUTH AND COLD SWEAT"),
    (0x1f606, "OPEN MOUTH AND TIGHTLY-CLOSED EYES;HALO;HORNS;;SMILING EYES;;;HEART-SHAPED EYES"),
    (0x1f60e, "SUNGLASSES"), (0x1f92d, "SMILING EYES AND HAND COVERING MOUTH"),
    (0x1f970, "SMILING EYES AND THREE HEARTS;;TEAR")]⟩,
  ⟨"NEUTRAL ", [(0x1f610, "FACE")]⟩,
  ⟨"KISSING ", [
    (0x1f617, "FACE;;FACE WITH SMILING EYES;FACE WITH CLOSED EYES"),
    (0x1f63d, "CAT FACE WITH CLOSED EYES")]⟩,
  ⟨"DISAPPOINTED ", [(0x1f61e, "FACE;;;;;;;BUT RELIEVED FACE")]⟩,
  ⟨"SMILING ", [(0x1f63a, "CAT FACE WITH OPEN MOUTH;CAT FACE WITH HEART-SHAPED EYES")]⟩,
  ⟨"PERSON ", [
    (0x1f647, "BOWING DEEPLY;;;;;RAISING BOTH HANDS IN CELEBRATION;FROWNING"),
    (0x1f938, "DOING CARTWHEEL"), (0x1f9d6, "IN STEAMY ROOM;CLIMBING;IN LOTUS POSITION")]⟩,
  ⟨"NORTH ", [
    (0x1f650, "WEST POINTING LEAF;;EAST POINTING LEAF;;;;;;WEST POINTING VINE LEAF"),
    (0x1f65a, "EAST POINTING VINE LEAF;;;;;;WEST POINTING BUD;;EAST POINTING BUD"),
    (0x1f854, "WEST SANS-SERIF ARROW;EAST SANS-SERIF ARROW")]⟩,
  ⟨"SOUTH ", [
    (0x1f651, "WEST POINTING LEAF;;EAST POINTING LEAF;;;;;;WEST POINTING VINE LEAF"),
    (0x1f65b, "EAST POINTING VINE LEAF;;;;;;WEST POINTING BUD;;EAST POINTING BUD"),
    (0x1f856, "EAST SANS-SERIF ARROW;WEST SANS-SERIF ARROW")]⟩,
  ⟨"HEAVY NORTH ", [
    (0x1f65c, "WEST POINTING VINE LEAF;;EAST POINTING VINE LEAF;;;;;;WEST POINTING BUD"),
    (0x1f666, "EAST POINTING BUD")]⟩,
  ⟨"HEAVY SOUTH ", [
    (0x1f65d, "WEST POINTING VINE LEAF;;EAST POINTING VINE LEAF;;;;;;WEST POINTING BUD"),
    (0x1f667, "EAST POINTING BUD")]⟩,
  ⟨"LEFTWARDS ", [
    (0x1f66c, "ROCKET"), (0x1f834, "FINGER-POST ARROW;;;;SQUARED ARROW;;;;COMPRESSED ARROW"),
    (0x1f840, "HEAVY COMPRESSED ARROW;;;;HEAVY ARROW"), (0x1f850, "SANS-SERIF ARROW"),
    (0x1f890, "TRIANGLE ARROWHEAD;;;;WHITE ARROW WITHIN TRIANGLE ARROWHEAD"),
    (0x1f8a0, "BOTTOM-SHADED WHITE ARROW;;TOP SHADED WHITE ARROW;;LEFT-SHADED WHITE ARROW"),
    (0x1f8a6, "RIGHT-SHADED WHITE ARROW;;BACK-TILTED SHADOWED WHITE ARROW"),
    (0x1f8aa, "FRONT-TILTED SHADOWED WHITE ARROW"), (0x1faf2, "HAND")]⟩,
  ⟨"UPWARDS ", [
    (0x1f66d, "ROCKET"), (0x1f835, "FINGER-POST ARROW;;;;SQUARED ARROW;;;;COMPRESSED ARROW"),
    (0x1f841, "HEAVY COMPRESSED ARROW;;;;HEAVY ARROW"), (0x1f851, "SANS-SERIF ARROW"),
    (0x1f891, "TRIANGLE ARROWHEAD;;;;WHITE ARROW WITHIN TRIANGLE ARROWHEAD")]⟩,
  ⟨"RIGHTWARDS ", [
    (0x1f66e, "ROCKET"), (0x1f836, "FINGER-POST ARROW;;;;SQUARED ARROW;;;;COMPRESSED ARROW"),
    (0x1f842, "HEAVY COMPRESSED ARROW;;;;HEAVY ARROW"), (0x1f852, "SANS-SERIF ARROW"),
    (0x1f892, "TRIANGLE ARROWHEAD;;;;WHITE ARROW WITHIN TRIANGLE ARROWHEAD"),
    (0x1f8a1, "BOTTOM SHADED WHITE ARROW;;TOP SHADED WHITE ARROW;;RIGHT-SHADED WHITE ARROW"),
    (0x1f8a7, "LEFT-SHADED WHITE ARROW;;BACK-TILTED SHADOWED WHITE ARROW"),
    (0x1f8ab, "FRONT-TILTED SHADOWED WHITE ARROW"), (0x1faf1, "HAND")]⟩,
  ⟨"DOWNWARDS ", [
    (0x1f66f, "ROCKET"), (0x1f837, "FINGER-POST ARROW;;;;SQUARED ARROW;;;;COMPRESSED ARROW"),
    (0x1f843, "HEAVY COMPRESSED ARROW;;;;HEAVY ARROW"), (0x1f853, "SANS-SERIF ARROW"),
    (0x1f893, "TRIANGLE ARROWHEAD;;;;WHITE ARROW WITHIN TRIANGLE ARROWHEAD")]⟩,
  ⟨"SANS-SERIF ", [
    (0x1f676, "HEAVY DOUBLE TURNED COMMA QUOTATION MARK ORNAMENT"),
    (0x1f677, "HEAVY DOUBLE COMMA QUOTATION MARK ORNAMENT"),
    (0x1f678, "HEAVY LOW DOUBLE COMMA QUOTATION MARK ORNAMENT;;INTERROBANG ORNAMENT")]⟩,
  ⟨"VERY HEAVY ", [
    (0x1f67c, "SOLIDUS;REVERSE SOLIDUS"), (0x1f788, "WHITE CIRCLE"), (0x1f792, "WHITE SQUARE"),
    (0x1f7a6, "GREEK CROSS;;;;;;;SALTIRE;;;;;;FIVE SPOKED ASTERISK;;;;;;SIX SPOKED ASTERISK"),
    (0x1f7bf, "EIGHT SPOKED ASTERISK"), (0x1f7d0, "EIGHT POINTED BLACK STAR")]⟩,
  ⟨"ONCOMING ", [(0x1f68d, "BUS;;;;;;;POLICE CAR;;TAXI;;AUTOMOBILE"), (0x1f6f1, "FIRE ENGINE")]⟩,
  ⟨"MOUNTAIN ", [(0x1f69e, "RAILWAY;;CABLEWAY"), (0x1f6b5, "BICYCLIST")]⟩,
  ⟨"HORIZONTAL ", [(0x1f6a5, "TRAFFIC LIGHT")]⟩,
  ⟨"VERTICAL ", [(0x1f6a6, "TRAFFIC LIGHT")]⟩,
  ⟨"ALCHEMICAL SYMBOL FOR ", [
    (0x1f700, "QUINTESSENCE;AIR;FIRE;EARTH;WATER;AQUAFORTIS;AQUA REGIA;AQUA REGIA-2;AQUA VITAE"),
    (0x1f709, "AQUA VITAE-2;VINEGAR;VINEGAR-2;VINEGAR-3;SULFUR;PHILOSOPHERS SULFUR;BLACK SULFUR"),
    (0x1f710, "MERCURY SUBLIMATE;MERCURY SUBLIMATE-2;MERCURY SUBLIMATE-3;CINNABAR;SALT;NITRE"),
    (0x1f716, "VITRIOL;VITRIOL-2;ROCK SALT;ROCK SALT-2;GOLD;SILVER;IRON ORE;IRON ORE-2"),
    (0x1f71e, "CROCUS OF IRON;REGULUS OF IRON;COPPER ORE;IRON-COPPER ORE;SUBLIMATE OF COPPER"),
    (0x1f723, "CROCUS OF COPPER;CROCUS OF COPPER-2;COPPER ANTIMONIATE"),
    (0x1f726, "SALT OF COPPER ANTIMONIATE;SUBLIMATE OF SALT OF COPPER;VERDIGRIS;TIN ORE"),
    (0x1f72a, "LEAD ORE;ANTIMONY ORE;SUBLIMATE OF ANTIMONY;SALT OF ANTIMONY"),
    (0x1f72e, "SUBLIMATE OF SALT OF ANTIMONY;VINEGAR OF ANTIMONY;REGULUS OF ANTIMONY"),
    (0x1f731, "REGULUS OF ANTIMONY-2;REGULUS;REGULUS-2;REGULUS-3;REGULUS-4;ALKALI;ALKALI-2"),
    (0x1f738, "MARCASITE;SAL-AMMONIAC;ARSENIC;REALGAR;REALGAR-2;AURIPIGMENT;BISMUTH ORE;TARTAR"),
    (0x1f740, "TARTAR-2;QUICK LIME;BORAX;BORAX-2;BORAX-3;ALUM;OIL;SPIRIT;TINCTURE;GUM;WAX"),
    (0x1f74b, "POWDER;CALX;TUTTY;CAPUT MORTUUM;SCEPTER OF JOVE;CADUCEUS;TRIDENT;STARRED TRIDENT"),
    (0x1f753, "LODESTONE;SOAP;URINE;HORSE DUNG;ASHES;POT ASHES;BRICK;POWDERED BRICK;AMALGAM"),
    (0x1f75c, "STRATUM SUPER STRATUM;STRATUM SUPER STRATUM-2;SUBLIMATION;PRECIPITATE;DISTILL"),
    (0x1f761, "DISSOLVE;DISSOLVE-2;PURIFY;PUTREFACTION;CRUCIBLE;CRUCIBLE-2;CRUCIBLE-3"),
    (0x1f768, "CRUCIBLE-4;CRUCIBLE-5;ALEMBIC;BATH OF MARY;BATH OF VAPOURS;RETORT;HOUR;NIGHT"),
    (0x1f770, "DAY-NIGHT;MONTH;HALF DRAM;HALF OUNCE")]⟩,
  ⟨"MEDIUM ", [
    (0x1f785, "BOLD WHITE CIRCLE"), (0x1f78f, "WHITE SQUARE"), (0x1f7a3, "GREEK CROSS"),
    (0x1f7aa, "SALTIRE;;;;;;FIVE SPOKED ASTERISK;;;;;;SIX SPOKED ASTERISK"),
    (0x1f7bc, "EIGHT SPOKED ASTERISK;;;;;THREE POINTED BLACK STAR;;THREE POINTED PINWHEEL STAR"),
    (0x1f7c5, "FOUR POINTED BLACK STAR;;FOUR POINTED PINWHEEL STAR;;;;SIX POINTED BLACK STAR"),
    (0x1f7ce, "EIGHT POINTED BLACK STAR")]⟩,
  ⟨"BOLD ", [
    (0x1f786, "WHITE CIRCLE"), (0x1f790, "WHITE SQUARE"), (0x1f7a4, "GREEK CROSS;;;;;;;SALTIRE"),
    (0x1f7b1, "FIVE SPOKED ASTERISK;;;;;;SIX SPOKED ASTERISK;;;;;;EIGHT SPOKED ASTERISK")]⟩,
  ⟨"EXTREMELY HEAVY ", [
    (0x1f789, "WHITE CIRCLE"), (0x1f793, "WHITE SQUARE"), (0x1f7a7, "GREEK CROSS;;;;;;;SALTIRE"),
    (0x1f7b4, "FIVE SPOKED ASTERISK;;;;;;SIX SPOKED ASTERISK")]⟩,
  ⟨"VERY ", [(0x1f7a5, "BOLD GREEK CROSS")]⟩,
  ⟨"NEGATIVE CIRCLED ", [(0x1f7d6, "TRIANGLE;;SQUARE")]⟩,
  ⟨"LEFTWARDS ARROW ", [
    (0x1f800, "WITH SMALL TRIANGLE ARROWHEAD;;;;WITH MEDIUM TRIANGLE ARROWHEAD"),
    (0x1f808, "WITH LARGE TRIANGLE ARROWHEAD;;;;;;;;WITH SMALL EQUILATERAL ARROWHEAD"),
    (0x1f814, "WITH EQUILATERAL ARROWHEAD"), (0x1f898, "WITH NOTCHED TAIL"),
    (0x1fbb5, "AND UPPER AND LOWER ONE EIGHTH BLOCK")]⟩,
  ⟨"UPWARDS ARROW ", [
    (0x1f801, "WITH SMALL TRIANGLE ARROWHEAD;;;;WITH MEDIUM TRIANGLE ARROWHEAD"),
    (0x1f809, "WITH LARGE TRIANGLE ARROWHEAD;;;;;;;;WITH SMALL EQUILATERAL ARROWHEAD"),
    (0x1f815, "WITH EQUILATERAL ARROWHEAD"), (0x1f899, "WITH NOTCHED TAIL"),
    (0x1fbb8, "AND RIGHT ONE EIGHTH BLOCK")]⟩,
  ⟨"RIGHTWARDS ARROW ", [
    (0x1f802, "WITH SMALL TRIANGLE ARROWHEAD;;;;WITH MEDIUM TRIANGLE ARROWHEAD"),
    (0x1f80a, "WITH LARGE TRIANGLE ARROWHEAD;;;;;;;;WITH SMALL EQUILATERAL ARROWHEAD"),
    (0x1f816, "WITH EQUILATERAL ARROWHEAD"), (0x1f89a, "WITH NOTCHED TAIL"),
    (0x1fbb6, "AND UPPER AND LOWER ONE EIGHTH BLOCK")]⟩,
  ⟨"DOWNWARDS ARROW ", [
    (0x1f803, "WITH SMALL TRIANGLE ARROWHEAD;;;;WITH MEDIUM TRIANGLE ARROWHEAD"),
    (0x1f80b, "WITH LARGE TRIANGLE ARROWHEAD;;;;;;;;WITH SMALL EQUILATERAL ARROWHEAD"),
    (0x1f817, "WITH EQUILATERAL ARROWHEAD"), (0x1f89b, "WITH NOTCHED TAIL"),
    (0x1fbb7, "AND RIGHT ONE EIGHTH BLOCK")]⟩,
  ⟨"LEFTWARDS TRIANGLE-HEADED ", [
    (0x1f820, "ARROW WITH NARROW SHAFT;;;;ARROW WITH MEDIUM SHAFT;;;;ARROW WITH BOLD SHAFT"),
    (0x1f82c, "ARROW WITH HEAVY SHAFT;;;;ARROW WITH VERY HEAVY SHAFT")]⟩,
  ⟨"UPWARDS TRIANGLE-HEADED ", [
    (0x1f821, "ARROW WITH NARROW SHAFT;;;;ARROW WITH MEDIUM SHAFT;;;;ARROW WITH BOLD SHAFT"),
    (0x1f82d, "ARROW WITH HEAVY SHAFT;;;;ARROW WITH VERY HEAVY SHAFT")]⟩,
  ⟨"RIGHTWARDS TRIANGLE-HEADED ", [
    (0x1f822, "ARROW WITH NARROW SHAFT;;;;ARROW WITH MEDIUM SHAFT;;;;ARROW WITH BOLD SHAFT"),
    (0x1f82e, "ARROW WITH HEAVY SHAFT;;;;ARROW WITH VERY HEAVY SHAFT")]⟩,
  ⟨"DOWNWARDS TRIANGLE-HEADED ", [
    (0x1f823, "ARROW WITH NARROW SHAFT;;;;ARROW WITH MEDIUM SHAFT;;;;ARROW WITH BOLD SHAFT"),
    (0x1f82f, "ARROW WITH HEAVY SHAFT;;;;ARROW WITH VERY HEAVY SHAFT")]⟩,
  ⟨"WIDE-HEADED LEFTWARDS ", [
    (0x1f860, "LIGHT BARB ARROW;;;;;;;;BARB ARROW;;;;;;;;MEDIUM BARB ARROW"),
    (0x1f878, "HEAVY BARB ARROW;;;;;;;;VERY HEAVY BARB ARROW")]⟩,
  ⟨"WIDE-HEADED UPWARDS ", [
    (0x1f861, "LIGHT BARB ARROW;;;;;;;;BARB ARROW;;;;;;;;MEDIUM BARB ARROW"),
    (0x1f879, "HEAVY BARB ARROW;;;;;;;;VERY HEAVY BARB ARROW")]⟩,
  ⟨"WIDE-HEADED RIGHTWARDS ", [
    (0x1f862, "LIGHT BARB ARROW;;;;;;;;BARB ARROW;;;;;;;;MEDIUM BARB ARROW"),
    (0x1f87a, "HEAVY BARB ARROW;;;;;;;;VERY HEAVY BARB ARROW")]⟩,
  ⟨"WIDE-HEADED DOWNWARDS ", [
    (0x1f863, "LIGHT BARB ARROW;;;;;;;;BARB ARROW;;;;;;;;MEDIUM BARB ARROW"),
    (0x1f87b, "HEAVY BARB ARROW;;;;;;;;VERY HEAVY BARB ARROW")]⟩,
  ⟨"WIDE-HEADED NORTH ", [
    (0x1f864, "WEST LIGHT BARB ARROW;EAST LIGHT BARB ARROW;;;;;;;WEST BARB ARROW"),
    (0x1f86d, "EAST BARB ARROW;;;;;;;WEST MEDIUM BARB ARROW;EAST MEDIUM BARB ARROW"),
    (0x1f87c, "WEST HEAVY BARB ARROW;EAST HEAVY BARB ARROW;;;;;;;WEST VERY HEAVY BARB ARROW"),
    (0x1f885, "EAST VERY HEAVY BARB ARROW")]⟩,
  ⟨"WIDE-HEADED SOUTH ", [
    (0x1f866, "EAST LIGHT BARB ARROW;WEST LIGHT BARB ARROW;;;;;;;EAST BARB ARROW"),
    (0x1f86f, "WEST BARB ARROW;;;;;;;EAST MEDIUM BARB ARROW;WEST MEDIUM BARB ARROW"),
    (0x1f87e, "EAST HEAVY BARB ARROW;WEST HEAVY BARB ARROW;;;;;;;EAST VERY HEAVY BARB ARROW"),
    (0x1f887, "WEST VERY HEAVY BARB ARROW")]⟩,
  ⟨"HEAVY ARROW ", [
    (0x1f89c, "SHAFT WIDTH ONE;SHAFT WIDTH TWO THIRDS;SHAFT WIDTH ONE HALF"),
    (0x1f89f, "SHAFT WIDTH ONE THIRD")]⟩,
  ⟨"LEFT HALF ", [
    (0x1f903, "CIRCLE WITH FOUR DOTS;CIRCLE WITH THREE DOTS;CIRCLE WITH TWO DOTS"),
    (0x1f906, "CIRCLE WITH DOT;CIRCLE"), (0x1fb8c, "MEDIUM SHADE"),
    (0x1fb94, "INVERSE MEDIUM SHADE AND RIGHT HALF BLOCK"), (0x1fbb2, "RUNNING MAN;;;;;;;FOLDER")]⟩,
  ⟨"DOWNWARD FACING ", [(0x1f908, "HOOK;NOTCHED HOOK;HOOK WITH DOT;NOTCHED HOOK WITH DOT")]⟩,
  ⟨"PREGNANT ", [(0x1f930, "WOMAN"), (0x1fac3, "MAN;PERSON")]⟩,
  ⟨"EMOJI COMPONENT ", [(0x1f9b0, "RED HAIR;CURLY HAIR;BALD;WHITE HAIR")]⟩,
  ⟨"NEUTRAL CHESS ", [
    (0x1fa00, "KING;QUEEN;ROOK;BISHOP;KNIGHT;PAWN"), (0x1fa15, "KING ROTATED NINETY DEGREES"),
    (0x1fa16, "QUEEN ROTATED NINETY DEGREES;ROOK ROTATED NINETY DEGREES"),
    (0x1fa18, "BISHOP ROTATED NINETY DEGREES;;PAWN ROTATED NINETY DEGREES"),
    (0x1fa3f, "KING ROTATED TWO HUNDRED SEVENTY DEGREES"),
    (0x1fa40, "QUEEN ROTATED TWO HUNDRED SEVENTY DEGREES"),
    (0x1fa41, "ROOK ROTATED TWO HUNDRED SEVENTY DEGREES"),
    (0x1fa42, "BISHOP ROTATED TWO HUNDRED SEVENTY DEGREES"),
    (0x1fa44, "PAWN ROTATED TWO HUNDRED SEVENTY DEGREES;;;;;;EQUIHOPPER"),
    (0x1fa4d, "EQUIHOPPER ROTATED NINETY DEGREES")]⟩,
  ⟨"WHITE CHESS KNIGHT ROTATED ", [
    (0x1fa06, "FORTY-FIVE DEGREES;;;;;;;NINETY DEGREES"),
    (0x1fa1b, "ONE HUNDRED THIRTY-FIVE DEGREES"), (0x1fa30, "TWO HUNDRED TWENTY-FIVE DEGREES"),
    (0x1fa37, "TWO HUNDRED SEVENTY DEGREES"), (0x1fa45, "THREE HUNDRED FIFTEEN DEGREES")]⟩,
  ⟨"BLACK CHESS KNIGHT ROTATED ", [
    (0x1fa07, "FORTY-FIVE DEGREES"), (0x1fa13, "NINETY DEGREES"),
    (0x1fa1c, "ONE HUNDRED THIRTY-FIVE DEGREES"), (0x1fa31, "TWO HUNDRED TWENTY-FIVE DEGREES"),
    (0x1fa3d, "TWO HUNDRED SEVENTY DEGREES"), (0x1fa46, "THREE HUNDRED FIFTEEN DEGREES")]⟩,
  ⟨"NEUTRAL CHESS KNIGHT ROTATED ", [
    (0x1fa08, "FORTY-FIVE DEGREES"), (0x1fa19, "NINETY DEGREES"),
    (0x1fa1d, "ONE HUNDRED THIRTY-FIVE DEGREES"), (0x1fa32, "TWO HUNDRED TWENTY-FIVE DEGREES"),
    (0x1fa43, "TWO HUNDRED SEVENTY DEGREES;;;;THREE HUNDRED FIFTEEN DEGREES")]⟩,
  ⟨"WHITE CHESS ", [
    (0x1fa09, "KING ROTATED NINETY DEGREES;QUEEN ROTATED NINETY DEGREES"),
    (0x1fa0b, "ROOK ROTATED NINETY DEGREES;BISHOP ROTATED NINETY DEGREES"),
    (0x1fa0e, "PAWN ROTATED NINETY DEGREES"),
    (0x1fa33, "KING ROTATED TWO HUNDRED SEVENTY DEGREES"),
    (0x1fa34, "QUEEN ROTATED TWO HUNDRED SEVENTY DEGREES"),
    (0x1fa35, "ROOK ROTATED TWO HUNDRED SEVENTY DEGREES"),
    (0x1fa36, "BISHOP ROTATED TWO HUNDRED SEVENTY DEGREES"),
    (0x1fa38, "PAWN ROTATED TWO HUNDRED SEVENTY DEGREES"), (0x1fa48, "EQUIHOPPER"),
    (0x1fa4b, "EQUIHOPPER ROTATED NINETY DEGREES;;;KNIGHT-QUEEN;KNIGHT-ROOK;KNIGHT-BISHOP")]⟩,
  ⟨"BLACK CHESS ", [
    (0x1fa0f, "KING ROTATED NINETY DEGREES;QUEEN ROTATED NINETY DEGREES"),
    (0x1fa11, "ROOK ROTATED NINETY DEGREES;BISHOP ROTATED NINETY DEGREES"),
    (0x1fa14, "PAWN ROTATED NINETY DEGREES"),
    (0x1fa39, "KING ROTATED TWO HUNDRED SEVENTY DEGREES"),
    (0x1fa3a, "QUEEN ROTATED TWO HUNDRED SEVENTY DEGREES"),
    (0x1fa3b, "ROOK ROTATED TWO HUNDRED SEVENTY DEGREES"),
    (0x1fa3c, "BISHOP ROTATED TWO HUNDRED SEVENTY DEGREES"),
    (0x1fa3e, "PAWN ROTATED TWO HUNDRED SEVENTY DEGREES"), (0x1fa49, "EQUIHOPPER"),
    (0x1fa4c, "EQUIHOPPER ROTATED NINETY DEGREES;;;;;KNIGHT-QUEEN;KNIGHT-ROOK;KNIGHT-BISHOP")]⟩,
  ⟨"WHITE CHESS TURNED ", [(0x1fa1e, "KING;QUEEN;ROOK;BISHOP;KNIGHT;PAWN")]⟩,
  ⟨"BLACK CHESS TURNED ", [(0x1fa24, "KING;QUEEN;ROOK;BISHOP;KNIGHT;PAWN")]⟩,
  ⟨"NEUTRAL CHESS TURNED ", [(0x1fa2a, "KING;QUEEN;ROOK;BISHOP;KNIGHT;PAWN")]⟩,
  ⟨"XIANGQI RED ", [(0x1fa60, "GENERAL;MANDARIN;ELEPHANT;HORSE;CHARIOT;CANNON;SOLDIER")]⟩,
  ⟨"XIANGQI BLACK ", [(0x1fa67, "GENERAL;MANDARIN;ELEPHANT;HORSE;CHARIOT;CANNON;SOLDIER")]⟩,
  ⟨"BLOCK ", [
    (0x1fb00, "SEXTANT-1;SEXTANT-2;SEXTANT-12;SEXTANT-3;SEXTANT-13;SEXTANT-23;SEXTANT-123"),
    (0x1fb07, "SEXTANT-4;SEXTANT-14;SEXTANT-24;SEXTANT-124;SEXTANT-34;SEXTANT-134;SEXTANT-234"),
    (0x1fb0e, "SEXTANT-1234;SEXTANT-5;SEXTANT-15;SEXTANT-25;SEXTANT-125;SEXTANT-35;SEXTANT-235"),
    (0x1fb15, "SEXTANT-1235;SEXTANT-45;SEXTANT-145;SEXTANT-245;SEXTANT-1245;SEXTANT-345"),
    (0x1fb1b, "SEXTANT-1345;SEXTANT-2345;SEXTANT-12345;SEXTANT-6;SEXTANT-16;SEXTANT-26"),
    (0x1fb21, "SEXTANT-126;SEXTANT-36;SEXTANT-136;SEXTANT-236;SEXTANT-1236;SEXTANT-46"),
    (0x1fb27, "SEXTANT-146;SEXTANT-1246;SEXTANT-346;SEXTANT-1346;SEXTANT-2346;SEXTANT-12346"),
    (0x1fb2d, "SEXTANT-56;SEXTANT-156;SEXTANT-256;SEXTANT-1256;SEXTANT-356;SEXTANT-1356"),
    (0x1fb33, "SEXTANT-2356;SEXTANT-12356;SEXTANT-456;SEXTANT-1456;SEXTANT-2456;SEXTANT-12456"),
    (0x1fb39, "SEXTANT-3456;SEXTANT-13456;SEXTANT-23456")]⟩,
  ⟨"LOWER LEFT BLOCK DIAGONAL ", [
    (0x1fb3c, "LOWER MIDDLE LEFT TO LOWER CENTRE;LOWER MIDDLE LEFT TO LOWER RIGHT")]⟩,
  ⟨"LOWER LEFT BLOCK DIAGONAL UPPER ", [
    (0x1fb3e, "MIDDLE LEFT TO LOWER CENTRE;MIDDLE LEFT TO LOWER RIGHT;LEFT TO LOWER CENTRE"),
    (0x1fb4c, "CENTRE TO UPPER MIDDLE RIGHT;LEFT TO UPPER MIDDLE RIGHT"),
    (0x1fb4e, "CENTRE TO LOWER MIDDLE RIGHT;LEFT TO LOWER MIDDLE RIGHT;CENTRE TO LOWER RIGHT"),
    (0x1fb51, "MIDDLE LEFT TO LOWER MIDDLE RIGHT")]⟩,
  ⟨"LOWER RIGHT BLOCK DIAGONAL ", [
    (0x1fb41, "UPPER MIDDLE LEFT TO UPPER CENTRE;UPPER MIDDLE LEFT TO UPPER RIGHT")]⟩,
  ⟨"LOWER RIGHT BLOCK DIAGONAL LOWER ", [
    (0x1fb43, "MIDDLE LEFT TO UPPER CENTRE;MIDDLE LEFT TO UPPER RIGHT;LEFT TO UPPER CENTRE"),
    (0x1fb46, "MIDDLE LEFT TO UPPER MIDDLE RIGHT;CENTRE TO LOWER MIDDLE RIGHT"),
    (0x1fb48, "LEFT TO LOWER MIDDLE RIGHT;CENTRE TO UPPER MIDDLE RIGHT"),
    (0x1fb4a, "LEFT TO UPPER MIDDLE RIGHT;CENTRE TO UPPER RIGHT")]⟩,
  ⟨"UPPER RIGHT BLOCK DIAGONAL ", [
    (0x1fb52, "LOWER MIDDLE LEFT TO LOWER CENTRE;LOWER MIDDLE LEFT TO LOWER RIGHT")]⟩,
  ⟨"UPPER RIGHT BLOCK DIAGONAL UPPER ", [
    (0x1fb54, "MIDDLE LEFT TO LOWER CENTRE;MIDDLE LEFT TO LOWER RIGHT;LEFT TO LOWER CENTRE"),
    (0x1fb62, "CENTRE TO UPPER MIDDLE RIGHT;LEFT TO UPPER MIDDLE RIGHT"),
    (0x1fb64, "CENTRE TO LOWER MIDDLE RIGHT;LEFT TO LOWER MIDDLE RIGHT;CENTRE TO LOWER RIGHT"),
    (0x1fb67, "MIDDLE LEFT TO LOWER MIDDLE RIGHT")]⟩,
  ⟨"UPPER LEFT BLOCK DIAGONAL ", [
    (0x1fb57, "UPPER MIDDLE LEFT TO UPPER CENTRE;UPPER MIDDLE LEFT TO UPPER RIGHT")]⟩,
  ⟨"UPPER LEFT BLOCK DIAGONAL LOWER ", [
    (0x1fb59, "MIDDLE LEFT TO UPPER CENTRE;MIDDLE LEFT TO UPPER RIGHT;LEFT TO UPPER CENTRE"),
    (0x1fb5c, "MIDDLE LEFT TO UPPER MIDDLE RIGHT;CENTRE TO LOWER MIDDLE RIGHT"),
    (0x1fb5e, "LEFT TO LOWER MIDDLE RIGHT;CENTRE TO UPPER MIDDLE RIGHT"),
    (0x1fb60, "LEFT TO UPPER MIDDLE RIGHT;CENTRE TO UPPER RIGHT")]⟩,
  ⟨"UPPER ", [
    (0x1fb68, "AND RIGHT AND LOWER TRIANGULAR THREE QUARTERS BLOCK"),
    (0x1fb6a, "AND LEFT AND LOWER TRIANGULAR THREE QUARTERS BLOCK"),
    (0x1fb6d, "TRIANGULAR ONE QUARTER BLOCK"), (0x1fb80, "AND LOWER ONE EIGHTH BLOCK"),
    (0x1fb82, "ONE QUARTER BLOCK;THREE EIGHTHS BLOCK;FIVE EIGHTHS BLOCK;THREE QUARTERS BLOCK"),
    (0x1fb86, "SEVEN EIGHTHS BLOCK;;;;;;;;HALF MEDIUM SHADE"),
    (0x1fb91, "HALF BLOCK AND LOWER HALF INVERSE MEDIUM SHADE"),
    (0x1fb92, "HALF INVERSE MEDIUM SHADE AND LOWER HALF BLOCK"),
    (0x1fb9a, "AND LOWER TRIANGULAR HALF BLOCK")]⟩,
  ⟨"LOWER ", [(0x1fb6f, "TRIANGULAR ONE QUARTER BLOCK"), (0x1fb8f, "HALF MEDIUM SHADE")]⟩,
  ⟨"VERTICAL ONE EIGHTH ", [(0x1fb70, "BLOCK-2;BLOCK-3;BLOCK-4;BLOCK-5;BLOCK-6;BLOCK-7")]⟩,
  ⟨"HORIZONTAL ONE EIGHTH ", [
    (0x1fb76, "BLOCK-2;BLOCK-3;BLOCK-4;BLOCK-5;BLOCK-6;BLOCK-7;;;;;;BLOCK-1358")]⟩,
  ⟨"INVERSE ", [
    (0x1fb90, "MEDIUM SHADE;;;;;;CHECKER BOARD FILL"), (0x1fbb1, "CHECK MARK"),
    (0x1fbb4, "DOWNWARDS ARROW WITH TIP LEFTWARDS")]⟩,
  ⟨"UPPER LEFT ", [(0x1fb98, "TO LOWER RIGHT FILL;;;;TRIANGULAR MEDIUM SHADE")]⟩,
  ⟨"BOX DRAWINGS LIGHT DIAGONAL UPPER CENTRE ", [
    (0x1fba0, "TO MIDDLE LEFT;TO MIDDLE RIGHT;;;TO MIDDLE LEFT TO LOWER CENTRE"),
    (0x1fba5, "TO MIDDLE RIGHT TO LOWER CENTRE"),
    (0x1fba8, "TO MIDDLE LEFT AND MIDDLE RIGHT TO LOWER CENTRE"),
    (0x1fba9, "TO MIDDLE RIGHT AND MIDDLE LEFT TO LOWER CENTRE"),
    (0x1fbaa, "TO MIDDLE RIGHT TO LOWER CENTRE TO MIDDLE LEFT"),
    (0x1fbab, "TO MIDDLE LEFT TO LOWER CENTRE TO MIDDLE RIGHT")]⟩,
  ⟨"BOX DRAWINGS LIGHT DIAGONAL ", [
    (0x1fba2, "MIDDLE LEFT TO LOWER CENTRE;MIDDLE RIGHT TO LOWER CENTRE"),
    (0x1fba6, "MIDDLE LEFT TO LOWER CENTRE TO MIDDLE RIGHT"),
    (0x1fba7, "MIDDLE LEFT TO UPPER CENTRE TO MIDDLE RIGHT"),
    (0x1fbac, "MIDDLE LEFT TO UPPER CENTRE TO MIDDLE RIGHT TO LOWER CENTRE"),
    (0x1fbad, "MIDDLE RIGHT TO UPPER CENTRE TO MIDDLE LEFT TO LOWER CENTRE;DIAMOND")]⟩,
  ⟨"BOX DRAWINGS LIGHT ", [(0x1fbaf, "HORIZONTAL WITH VERTICAL STROKE")]⟩,
  ⟨"NEGATIVE ", [
    (0x1fbbd, "DIAGONAL CROSS;DIAGONAL MIDDLE RIGHT TO LOWER CENTRE;DIAGONAL DIAMOND")]⟩,
  ⟨"STICK ", [(0x1fbc5, "FIGURE")]⟩,
  ⟨"STICK FIGURE ", [(0x1fbc6, "WITH ARMS RAISED;LEANING LEFT;LEANING RIGHT;WITH DRESS")]⟩,
  ⟨"SEGMENTED DIGIT ", [(0x1fbf0, "ZERO;ONE;TWO;THREE;FOUR;FIVE;SIX;SEVEN;EIGHT;NINE")]⟩,
  ⟨"TAG ", [
    (0xe0020, "SPACE;EXCLAMATION MARK;QUOTATION MARK;NUMBER SIGN;DOLLAR SIGN;PERCENT SIGN"),
    (0xe0026, "AMPERSAND;APOSTROPHE;LEFT PARENTHESIS;RIGHT PARENTHESIS;ASTERISK;PLUS SIGN;COMMA"),
    (0xe002d, "HYPHEN-MINUS;FULL STOP;SOLIDUS"), (0xe003a, "COLON;SEMICOLON;LESS-THAN SIGN"),
    (0xe003d, "EQUALS SIGN;GREATER-THAN SIGN;QUESTION MARK;COMMERCIAL AT"),
    (0xe005b, "LEFT SQUARE BRACKET;REVERSE SOLIDUS;RIGHT SQUARE BRACKET;CIRCUMFLEX ACCENT"),
    (0xe005f, "LOW LINE;GRAVE ACCENT"), (0xe007b, "LEFT CURLY BRACKET;VERTICAL LINE"),
    (0xe007d, "RIGHT CURLY BRACKET;TILDE")]⟩,
  ⟨"TAG DIGIT ", [(0xe0030, "ZERO;ONE;TWO;THREE;FOUR;FIVE;SIX;SEVEN;EIGHT;NINE")]⟩,
  ⟨"TAG LATIN CAPITAL LETTER ", [(0xe0041, "A;B;C;D;E;F;G;H;I;J;K;L;M;N;O;P;Q;R;S;T;U;V;W;X;Y;Z")]⟩,
  ⟨"TAG LATIN SMALL LETTER ", [(0xe0061, "A;B;C;D;E;F;G;H;I;J;K;L;M;N;O;P;Q;R;S;T;U;V;W;X;Y;Z")]⟩]

end ReceiptRules.Text.CharacterName
